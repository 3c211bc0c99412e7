import Mathlib.Data.List.Basic
import Mathlib.Data.List.Find

/-! # Keys in a text

A vocabulary spells keys as rows of symbols. Scanning reads a text from left to
right into plain symbols and keys; an occurrence that was read is not read
again. Filling writes tokens back, with a value in place of each key, so that
scanning and filling together are the usual replacement of all occurrences. -/

namespace PalCrosschat

/-- A vocabulary: no key is spelled as the empty row. -/
structure Vocabulary (α κ : Type) where
  spelling : κ → List α
  nonempty : ∀ name, spelling name ≠ []

inductive Token (α κ : Type)
  | plain (symbol : α)
  | key (name : κ)
deriving DecidableEq, Repr

namespace Token

variable {α κ : Type}

def write (values : κ → List α) : Token α κ → List α
  | plain symbol => [symbol]
  | key name => values name

def fill (values : κ → List α) (tokens : List (Token α κ)) : List α :=
  tokens.flatMap (write values)

variable (values : κ → List α)

@[simp] theorem fill_nil : fill values [] = [] := rfl

@[simp] theorem fill_plain (symbol : α) (tokens : List (Token α κ)) :
    fill values (plain symbol :: tokens) = symbol :: fill values tokens := rfl

@[simp] theorem fill_key (name : κ) (tokens : List (Token α κ)) :
    fill values (key name :: tokens) = values name ++ fill values tokens := rfl

theorem fill_append (left right : List (Token α κ)) :
    fill values (left ++ right) = fill values left ++ fill values right :=
  List.flatMap_append

def keyCount [DecidableEq κ] (name : κ) : List (Token α κ) → Nat
  | [] => 0
  | plain _ :: rest => keyCount name rest
  | key other :: rest => (if other = name then 1 else 0) + keyCount name rest

theorem keyCount_append [DecidableEq κ] (name : κ) (left right : List (Token α κ)) :
    keyCount name (left ++ right) = keyCount name left + keyCount name right := by
  induction left with
  | nil => simp [keyCount]
  | cons token rest induction =>
      cases token with
      | plain symbol => simpa [keyCount] using induction
      | key other =>
          rw [List.cons_append, keyCount, keyCount, induction]
          omega

theorem keyCount_map_plain [DecidableEq κ] (name : κ) (text : List α) :
    keyCount name (text.map plain) = 0 := by
  induction text with
  | nil => rfl
  | cons symbol rest induction => exact induction

end Token

namespace Vocabulary

variable {α κ : Type} [DecidableEq α] (vocabulary : Vocabulary α κ) (keys : List κ)

/-! ## Scanning -/

def keyAt (text : List α) : Option κ :=
  keys.find? fun name => (vocabulary.spelling name).isPrefixOf text

/-- Scan a text, `skip` symbols of which belong to a key that was read. -/
def scanFrom : (skip : Nat) → List α → List (Token α κ)
  | _, [] => []
  | skip + 1, _ :: rest => scanFrom skip rest
  | 0, symbol :: rest =>
      match vocabulary.keyAt keys (symbol :: rest) with
      | some name => .key name :: scanFrom ((vocabulary.spelling name).length - 1) rest
      | none => .plain symbol :: scanFrom 0 rest

def scan (text : List α) : List (Token α κ) := vocabulary.scanFrom keys 0 text

def substitute (name : κ) (value text : List α) : List α :=
  Token.fill (fun _ => value) (vocabulary.scan [name] text)

def occurrences [DecidableEq κ] (name : κ) (text : List α) : Nat :=
  Token.keyCount name (vocabulary.scan [name] text)

variable {keys}

theorem scanFrom_eq (skip : Nat) (text : List α) :
    vocabulary.scanFrom keys skip text = vocabulary.scan keys (text.drop skip) := by
  induction text generalizing skip with
  | nil => cases skip <;> rfl
  | cons symbol rest induction =>
      cases skip with
      | zero => rfl
      | succ skip => exact induction skip

@[simp] theorem scan_nil : vocabulary.scan keys [] = [] := rfl

theorem scan_of_plain {symbol : α} {rest : List α}
    (noKey : vocabulary.keyAt keys (symbol :: rest) = none) :
    vocabulary.scan keys (symbol :: rest) = .plain symbol :: vocabulary.scan keys rest := by
  rw [scan, scanFrom, noKey]
  rfl

theorem spelling_of_keyAt {text : List α} {name : κ}
    (found : vocabulary.keyAt keys text = some name) :
    name ∈ keys ∧ vocabulary.spelling name <+: text := by
  have isPrefix := List.find?_some
    (p := fun name => (vocabulary.spelling name).isPrefixOf text) found
  exact ⟨List.mem_of_find?_eq_some found, List.isPrefixOf_iff_prefix.mp isPrefix⟩

theorem scan_of_key {text : List α} {name : κ}
    (found : vocabulary.keyAt keys text = some name) :
    vocabulary.scan keys text =
      .key name :: vocabulary.scan keys (text.drop (vocabulary.spelling name).length) := by
  cases text with
  | nil =>
      have isPrefix := (vocabulary.spelling_of_keyAt found).2
      exact absurd (List.prefix_nil.mp isPrefix) (vocabulary.nonempty name)
  | cons symbol rest =>
      have positive := List.length_pos_iff.mpr (vocabulary.nonempty name)
      have shift : (vocabulary.spelling name).length =
          (vocabulary.spelling name).length - 1 + 1 := by omega
      rw [scan, scanFrom, found]
      dsimp only
      rw [scanFrom_eq]
      conv => rhs; rw [shift, List.drop_succ_cons]

theorem not_prefix_of_keyAt {text : List α} (noKey : vocabulary.keyAt keys text = none)
    {name : κ} (member : name ∈ keys) : ¬vocabulary.spelling name <+: text := by
  have differs := List.find?_eq_none.mp noKey name member
  rwa [List.isPrefixOf_iff_prefix] at differs

/-- Induction along a scan: the empty text, a key that is read, a plain symbol. -/
theorem scan_induction (keys : List κ) {motive : List α → Prop} (nil : motive [])
    (key : ∀ (name : κ) (rest : List α),
      vocabulary.keyAt keys (vocabulary.spelling name ++ rest) = some name →
      motive rest → motive (vocabulary.spelling name ++ rest))
    (plain : ∀ (symbol : α) (rest : List α),
      vocabulary.keyAt keys (symbol :: rest) = none → motive rest → motive (symbol :: rest)) :
    ∀ text, motive text := by
  intro text
  induction size : text.length using Nat.strongRecOn generalizing text with
  | ind size induction =>
      cases text with
      | nil => exact nil
      | cons symbol rest =>
          cases found : vocabulary.keyAt keys (symbol :: rest) with
          | none =>
              apply plain symbol rest found
              exact induction rest.length (by simp [← size]) rest rfl
          | some name =>
              rcases (vocabulary.spelling_of_keyAt found).2 with ⟨later, split⟩
              have positive := List.length_pos_iff.mpr (vocabulary.nonempty name)
              have lengths := congrArg List.length split
              rw [List.length_append] at lengths
              rw [← split] at found ⊢
              exact key name later found (induction later.length (by omega) later rfl)

theorem scan_key_append {name : κ} {rest : List α}
    (found : vocabulary.keyAt keys (vocabulary.spelling name ++ rest) = some name) :
    vocabulary.scan keys (vocabulary.spelling name ++ rest) =
      .key name :: vocabulary.scan keys rest := by
  rw [vocabulary.scan_of_key found, List.drop_left]

@[simp] theorem fill_scan (text : List α) :
    Token.fill vocabulary.spelling (vocabulary.scan keys text) = text := by
  induction text using vocabulary.scan_induction keys with
  | nil => rfl
  | key name rest found induction =>
      rw [vocabulary.scan_key_append found, Token.fill_key, induction]
  | plain symbol rest noKey induction =>
      rw [vocabulary.scan_of_plain noKey, Token.fill_plain, induction]

/-! ## Texts in two parts -/

/-- An occurrence of `key` lies across the end of `left`. -/
def Straddles (key left right : List α) : Prop :=
  ∃ front back, front ≠ [] ∧ back ≠ [] ∧ key = front ++ back ∧ front <:+ left ∧ back <+: right

omit [DecidableEq α] in
theorem prefix_append_iff {key left right : List α} (nonempty : left ≠ [])
    (free : ¬Straddles key left right) : key <+: left ++ right ↔ key <+: left := by
  constructor
  · intro isPrefix
    by_cases short : key.length ≤ left.length
    · exact List.prefix_of_prefix_length_le isPrefix (List.prefix_append left right) short
    · exfalso
      rcases List.prefix_of_prefix_length_le (List.prefix_append left right) isPrefix
        (by omega) with ⟨back, rfl⟩
      refine free ⟨left, back, nonempty, ?_, rfl, List.suffix_refl left,
        (List.prefix_append_right_inj left).mp isPrefix⟩
      rintro rfl
      simp at short
  · exact fun isPrefix => isPrefix.trans (List.prefix_append left right)

theorem keyAt_append {left right : List α} (nonempty : left ≠ [])
    (free : ∀ name ∈ keys, ¬Straddles (vocabulary.spelling name) left right) :
    vocabulary.keyAt keys (left ++ right) = vocabulary.keyAt keys left := by
  apply List.find?_congr
  intro name member
  rw [Bool.eq_iff_iff, List.isPrefixOf_iff_prefix, List.isPrefixOf_iff_prefix]
  exact prefix_append_iff nonempty (free name member)

theorem scan_append (left : List α) {right : List α}
    (free : ∀ name ∈ keys, ¬Straddles (vocabulary.spelling name) left right) :
    vocabulary.scan keys (left ++ right) =
      vocabulary.scan keys left ++ vocabulary.scan keys right := by
  induction left using vocabulary.scan_induction keys with
  | nil => rfl
  | key name rest found induction =>
      have later : ∀ other ∈ keys, ¬Straddles (vocabulary.spelling other) rest right := by
        rintro other member ⟨front, back, hasFront, hasBack, split, inRest, inRight⟩
        exact free other member ⟨front, back, hasFront, hasBack, split,
          inRest.trans (List.suffix_append _ rest), inRight⟩
      have nonempty : vocabulary.spelling name ++ rest ≠ [] := by
        simp [vocabulary.nonempty name]
      have here := vocabulary.keyAt_append nonempty free
      rw [found, List.append_assoc] at here
      rw [List.append_assoc, vocabulary.scan_key_append here, vocabulary.scan_key_append found,
        induction later, List.cons_append]
  | plain symbol rest noKey induction =>
      have later : ∀ other ∈ keys, ¬Straddles (vocabulary.spelling other) rest right := by
        rintro other member ⟨front, back, hasFront, hasBack, split, inRest, inRight⟩
        exact free other member ⟨front, back, hasFront, hasBack, split,
          inRest.trans (List.suffix_cons symbol rest), inRight⟩
      have here := vocabulary.keyAt_append (List.cons_ne_nil symbol rest) free
      rw [noKey, List.cons_append] at here
      rw [List.cons_append, vocabulary.scan_of_plain here, vocabulary.scan_of_plain noKey,
        induction later, List.cons_append]

/-! ## Delimited keys -/

def OpensWith (key : List α) (opening : α) : Prop :=
  ∃ tail, key = opening :: tail ∧ opening ∉ tail

omit [DecidableEq α] in
theorem not_straddles_of_opensWith {key left right : List α} {opening : α}
    (opens : OpensWith key opening) : ¬Straddles key left (opening :: right) := by
  rintro ⟨front, back, hasFront, hasBack, split, -, inRight⟩
  rcases opens with ⟨tail, shape, fresh⟩
  cases front with
  | nil => exact hasFront rfl
  | cons first front =>
      cases back with
      | nil => exact hasBack rfl
      | cons start back =>
          have starts : start = opening := (List.cons_prefix_cons.mp inRight).1
          rw [shape, List.cons_append, List.cons.injEq] at split
          apply fresh
          rw [split.2, starts]
          simp

structure Delimited (opening : α) : Prop where
  opens : ∀ name, OpensWith (vocabulary.spelling name) opening
  prefixFree : ∀ name other, vocabulary.spelling name <+: vocabulary.spelling other → name = other

namespace Delimited

variable {vocabulary} {opening : α} (delimited : vocabulary.Delimited opening)
include delimited

theorem keyAt_spelling {name : κ} (member : name ∈ keys) (rest : List α) :
    vocabulary.keyAt keys (vocabulary.spelling name ++ rest) = some name := by
  cases found : vocabulary.keyAt keys (vocabulary.spelling name ++ rest) with
  | none =>
      exact absurd (List.prefix_append _ rest) (vocabulary.not_prefix_of_keyAt found member)
  | some other =>
      have isPrefix := (vocabulary.spelling_of_keyAt found).2
      rcases List.prefix_or_prefix_of_prefix isPrefix (List.prefix_append _ rest) with
        shorter | longer
      · rw [delimited.prefixFree other name shorter]
      · rw [delimited.prefixFree name other longer]

theorem scan_spelling {name : κ} (member : name ∈ keys) (left right : List α) :
    vocabulary.scan keys (left ++ (vocabulary.spelling name ++ right)) =
      vocabulary.scan keys left ++ .key name :: vocabulary.scan keys right := by
  rcases delimited.opens name with ⟨tail, shape, -⟩
  rw [vocabulary.scan_append left, vocabulary.scan_key_append
    (delimited.keyAt_spelling member right)]
  intro other _
  rw [shape, List.cons_append]
  exact not_straddles_of_opensWith (delimited.opens other)

theorem scan_of_not_mem {text : List α} (absent : opening ∉ text) (rest : List α) :
    vocabulary.scan keys (text ++ rest) = text.map .plain ++ vocabulary.scan keys rest := by
  induction text with
  | nil => rfl
  | cons symbol text induction =>
      have noKey : vocabulary.keyAt keys (symbol :: (text ++ rest)) = none := by
        apply List.find?_eq_none.mpr
        intro name _
        rcases delimited.opens name with ⟨tail, shape, -⟩
        rw [List.isPrefixOf_iff_prefix, shape, List.cons_prefix_cons]
        rintro ⟨rfl, -⟩
        exact absent List.mem_cons_self
      rw [List.cons_append, vocabulary.scan_of_plain noKey,
        induction fun member => absent (List.mem_cons_of_mem _ member)]
      rfl

theorem scan_other {other : κ} (absent : other ∉ keys) (rest : List α) :
    vocabulary.scan keys (vocabulary.spelling other ++ rest) =
      (vocabulary.spelling other).map .plain ++ vocabulary.scan keys rest := by
  rcases delimited.opens other with ⟨tail, shape, fresh⟩
  have noKey : vocabulary.keyAt keys (opening :: (tail ++ rest)) = none := by
    cases found : vocabulary.keyAt keys (opening :: (tail ++ rest)) with
    | none => rfl
    | some name =>
        rcases vocabulary.spelling_of_keyAt found with ⟨member, isPrefix⟩
        rw [← List.cons_append, ← shape] at isPrefix
        rcases List.prefix_or_prefix_of_prefix isPrefix (List.prefix_append _ rest) with
          shorter | longer
        · exact absurd (delimited.prefixFree name other shorter ▸ member) absent
        · exact absurd (delimited.prefixFree other name longer ▸ member) absent
  rw [shape, List.cons_append, vocabulary.scan_of_plain noKey,
    delimited.scan_of_not_mem fresh]
  rfl

end Delimited

/-! ## Replacing one key after the other -/

section Replacing

variable [DecidableEq κ]

theorem substitute_eq_self {name : κ} (value : List α) {text : List α}
    (absent : vocabulary.occurrences name text = 0) :
    vocabulary.substitute name value text = text := by
  unfold occurrences at absent
  unfold substitute
  induction text using vocabulary.scan_induction [name] with
  | nil => rfl
  | key other rest found induction =>
      have same : other = name :=
        List.mem_singleton.mp (vocabulary.spelling_of_keyAt found).1
      rw [vocabulary.scan_key_append found, Token.keyCount, if_pos same] at absent
      omega
  | plain symbol rest noKey induction =>
      rw [vocabulary.scan_of_plain noKey] at absent ⊢
      rw [Token.fill_plain, induction absent]

theorem occurrences_eq_zero_iff (name : κ) (text : List α) :
    vocabulary.occurrences name text = 0 ↔ ¬vocabulary.spelling name <:+: text := by
  unfold occurrences
  induction text using vocabulary.scan_induction [name] with
  | nil => simp [Token.keyCount, vocabulary.nonempty name]
  | key other rest found induction =>
      have same : other = name :=
        List.mem_singleton.mp (vocabulary.spelling_of_keyAt found).1
      rw [vocabulary.scan_key_append found, Token.keyCount, if_pos same, same]
      exact iff_of_false (by omega) (not_not_intro (List.prefix_append _ rest).isInfix)
  | plain symbol rest noKey induction =>
      have notHere := vocabulary.not_prefix_of_keyAt noKey (List.mem_singleton_self name)
      rw [vocabulary.scan_of_plain noKey, Token.keyCount, induction, List.infix_cons_iff]
      simp [notHere]

theorem length_substitute (name : κ) (value text : List α) :
    (vocabulary.substitute name value text).length +
        vocabulary.occurrences name text * (vocabulary.spelling name).length =
      text.length + vocabulary.occurrences name text * value.length := by
  unfold occurrences substitute
  induction text using vocabulary.scan_induction [name] with
  | nil => simp [Token.keyCount]
  | key other rest found induction =>
      have same : other = name :=
        List.mem_singleton.mp (vocabulary.spelling_of_keyAt found).1
      subst same
      rw [vocabulary.scan_key_append found, Token.keyCount, if_pos rfl, Token.fill_key,
        List.length_append, List.length_append, Nat.add_mul, Nat.add_mul, Nat.one_mul,
        Nat.one_mul]
      omega
  | plain symbol rest noKey induction =>
      rw [vocabulary.scan_of_plain noKey, Token.keyCount, Token.fill_plain, List.length_cons,
        List.length_cons]
      omega

namespace Delimited

variable {vocabulary} {opening : α} (delimited : vocabulary.Delimited opening)
include delimited

theorem occurrences_eq {name : κ} (member : name ∈ keys) (text : List α) :
    vocabulary.occurrences name text = Token.keyCount name (vocabulary.scan keys text) := by
  unfold occurrences
  induction text using vocabulary.scan_induction keys with
  | nil => rfl
  | key other rest found induction =>
      rw [vocabulary.scan_key_append found, Token.keyCount]
      by_cases same : other = name
      · subst same
        rw [vocabulary.scan_key_append
          (delimited.keyAt_spelling (List.mem_singleton_self other) rest), Token.keyCount,
          induction]
      · rw [delimited.scan_other (by simpa using same), Token.keyCount_append,
          Token.keyCount_map_plain, induction, if_neg same]
  | plain symbol rest noKey induction =>
      have notHere : vocabulary.keyAt [name] (symbol :: rest) = none := by
        apply List.find?_eq_none.mpr
        intro other inList
        rw [List.mem_singleton.mp inList, List.isPrefixOf_iff_prefix]
        exact vocabulary.not_prefix_of_keyAt noKey member
      rw [vocabulary.scan_of_plain notHere, vocabulary.scan_of_plain noKey, Token.keyCount,
        Token.keyCount, induction]

theorem occurrences_spelling (name : κ) (left right : List α) :
    vocabulary.occurrences name (left ++ (vocabulary.spelling name ++ right)) =
      vocabulary.occurrences name left + (1 + vocabulary.occurrences name right) := by
  unfold occurrences
  rw [delimited.scan_spelling (List.mem_singleton_self name), Token.keyCount_append,
    Token.keyCount, if_pos rfl]

omit [DecidableEq κ] in
theorem substitute_spelling (name : κ) (value left right : List α) :
    vocabulary.substitute name value (left ++ (vocabulary.spelling name ++ right)) =
      vocabulary.substitute name value left ++
        (value ++ vocabulary.substitute name value right) := by
  unfold substitute
  rw [delimited.scan_spelling (List.mem_singleton_self name), Token.fill_append,
    Token.fill_key]

/-- Behind any text, the keys among the tokens are occurrences; if there are no
others, replacing the key in the text is giving it its value in the tokens. -/
theorem substitute_fill_from {name : κ} {values : κ → List α}
    (spelled : values name = vocabulary.spelling name) (value : List α)
    (tokens : List (Token α κ)) (left : List α) :
    Token.keyCount name tokens ≤
        vocabulary.occurrences name (left ++ Token.fill values tokens) ∧
      (vocabulary.occurrences name (left ++ Token.fill values tokens) =
          Token.keyCount name tokens →
        vocabulary.substitute name value (left ++ Token.fill values tokens) =
          left ++ Token.fill (Function.update values name value) tokens) := by
  induction tokens generalizing left with
  | nil =>
      refine ⟨Nat.zero_le _, fun none => ?_⟩
      rw [Token.fill_nil, List.append_nil] at none ⊢
      rw [vocabulary.substitute_eq_self value none, Token.fill_nil, List.append_nil]
  | cons token rest induction =>
      cases token with
      | plain symbol =>
          have shifted := induction (left ++ [symbol])
          rw [List.append_assoc, List.append_assoc] at shifted
          exact shifted
      | key other =>
          rw [Token.fill_key, Token.fill_key, Token.keyCount]
          by_cases same : other = name
          · subst same
            have later := induction []
            rw [List.nil_append, List.nil_append] at later
            rw [spelled, delimited.occurrences_spelling, if_pos rfl, Function.update_self]
            refine ⟨by omega, fun equal => ?_⟩
            have inLeft : vocabulary.occurrences other left = 0 := by omega
            rw [delimited.substitute_spelling, vocabulary.substitute_eq_self value inLeft,
              later.2 (by omega)]
          · have shifted := induction (left ++ values other)
            rw [List.append_assoc, List.append_assoc] at shifted
            rw [if_neg same, Nat.zero_add, Function.update_of_ne same]
            exact shifted

theorem keyCount_le_occurrences {name : κ} {values : κ → List α}
    (spelled : values name = vocabulary.spelling name) (tokens : List (Token α κ)) :
    Token.keyCount name tokens ≤ vocabulary.occurrences name (Token.fill values tokens) :=
  (delimited.substitute_fill_from spelled [] tokens []).1

theorem substitute_fill {name : κ} {values : κ → List α}
    (spelled : values name = vocabulary.spelling name) (value : List α)
    {tokens : List (Token α κ)}
    (noOthers : vocabulary.occurrences name (Token.fill values tokens) =
      Token.keyCount name tokens) :
    vocabulary.substitute name value (Token.fill values tokens) =
      Token.fill (Function.update values name value) tokens :=
  (delimited.substitute_fill_from spelled value tokens []).2 noOthers

theorem occurrences_le_substitute {name other : κ} (different : other ≠ name)
    (value text : List α) :
    vocabulary.occurrences other text ≤
      vocabulary.occurrences other (vocabulary.substitute name value text) := by
  have whole : Token.fill vocabulary.spelling (vocabulary.scan [name, other] text) = text :=
    vocabulary.fill_scan text
  have own : vocabulary.occurrences name
      (Token.fill vocabulary.spelling (vocabulary.scan [name, other] text)) =
      Token.keyCount name (vocabulary.scan [name, other] text) := by
    rw [whole]
    exact delimited.occurrences_eq List.mem_cons_self text
  have replaced := delimited.substitute_fill rfl value own
  rw [whole] at replaced
  rw [delimited.occurrences_eq (show other ∈ [name, other] by simp) text, replaced]
  apply delimited.keyCount_le_occurrences
  exact Function.update_of_ne different value vocabulary.spelling

end Delimited

end Replacing

end Vocabulary

/-! ## Runs -/

structure Runs (α : Type) where
  first : List α
  rest : List (List α)

namespace Runs

variable {α : Type}

def join (part : List α) (runs : Runs α) : List α :=
  runs.first ++ runs.rest.flatMap fun run => part ++ run

def map (change : List α → List α) (runs : Runs α) : Runs α where
  first := change runs.first
  rest := runs.rest.map change

def size (runs : Runs α) : Nat := runs.first.length + runs.rest.flatten.length

theorem length_join (part : List α) (runs : Runs α) :
    (runs.join part).length = runs.size + runs.rest.length * part.length := by
  have lengths : ∀ rest : List (List α), (rest.flatMap fun run => part ++ run).length =
      rest.flatten.length + rest.length * part.length := by
    intro rest
    induction rest with
    | nil => simp
    | cons run rest induction =>
        rw [List.flatMap_cons, List.length_append, List.length_append, induction,
          List.flatten_cons, List.length_append, List.length_cons, Nat.succ_mul]
        omega
  rw [join, List.length_append, lengths, size]
  omega

theorem join_injective {runs : Runs α} (occurs : runs.rest ≠ []) {left right : List α}
    (equal : runs.join left = runs.join right) : left = right := by
  have lengths := congrArg List.length equal
  rw [length_join, length_join] at lengths
  have positive := List.length_pos_iff.mpr occurs
  have same : left.length = right.length :=
    Nat.eq_of_mul_eq_mul_left positive (by omega)
  rcases runs with ⟨first, rest⟩
  cases rest with
  | nil => exact absurd rfl occurs
  | cons run rest =>
      have behind := List.append_cancel_left equal
      rw [List.flatMap_cons, List.flatMap_cons, List.append_assoc, List.append_assoc] at behind
      exact (List.append_inj behind same).1

end Runs

namespace Token

variable {α κ : Type}

def runs : List (Token α κ) → Runs α
  | [] => ⟨[], []⟩
  | plain symbol :: tokens => { runs tokens with first := symbol :: (runs tokens).first }
  | key _ :: tokens => ⟨[], (runs tokens).first :: (runs tokens).rest⟩

theorem fill_eq_join (value : List α) (tokens : List (Token α κ)) :
    fill (fun _ => value) tokens = (runs tokens).join value := by
  induction tokens with
  | nil => rfl
  | cons token tokens induction =>
      cases token with
      | plain symbol =>
          rw [fill_plain, induction]
          rfl
      | key name =>
          rw [fill_key, induction]
          simp [runs, Runs.join]

theorem runs_rest_ne_nil [DecidableEq κ] {name : κ} {tokens : List (Token α κ)}
    (occurs : 0 < keyCount name tokens) : (runs tokens).rest ≠ [] := by
  induction tokens with
  | nil => exact absurd occurs (Nat.lt_irrefl 0)
  | cons token tokens induction =>
      cases token with
      | plain symbol => exact induction occurs
      | key other => exact List.cons_ne_nil _ _

end Token

/-! ## Isolated parts -/

/-- No occurrence of `key` lies partly inside `part`, wherever it stands. -/
structure Isolated {α : Type} (key part : List α) : Prop where
  left : ∀ front back, front ≠ [] → back ≠ [] → key = front ++ back →
    ¬back <+: part ∧ ¬part <+: back
  right : ∀ front back, front ≠ [] → back ≠ [] → key = front ++ back →
    ¬front <:+ part ∧ ¬part <:+ front

namespace Isolated

variable {α : Type} {key part : List α} (isolated : Isolated key part)
include isolated

theorem not_straddles_left (left right : List α) :
    ¬Vocabulary.Straddles key left (part ++ right) := by
  rintro ⟨front, back, hasFront, hasBack, split, -, isPrefix⟩
  rcases List.prefix_or_prefix_of_prefix isPrefix (List.prefix_append part right) with
    inside | across
  · exact (isolated.left front back hasFront hasBack split).1 inside
  · exact (isolated.left front back hasFront hasBack split).2 across

theorem not_straddles_right (left right : List α) :
    ¬Vocabulary.Straddles key (left ++ part) right := by
  rintro ⟨front, back, hasFront, hasBack, split, isSuffix, -⟩
  rcases List.suffix_or_suffix_of_suffix isSuffix (List.suffix_append left part) with
    inside | across
  · exact (isolated.right front back hasFront hasBack split).1 inside
  · exact (isolated.right front back hasFront hasBack split).2 across

end Isolated

namespace Vocabulary

variable {α κ : Type} [DecidableEq α] (vocabulary : Vocabulary α κ)

theorem substitute_append {name : κ} {left right : List α}
    (free : ¬Straddles (vocabulary.spelling name) left right) (value : List α) :
    vocabulary.substitute name value (left ++ right) =
      vocabulary.substitute name value left ++ vocabulary.substitute name value right := by
  unfold substitute
  rw [vocabulary.scan_append left, Token.fill_append]
  intro other member
  rw [List.mem_singleton.mp member]
  exact free

/-- Around an isolated part every run is replaced on its own. -/
theorem substitute_join {name : κ} {part : List α}
    (isolated : Isolated (vocabulary.spelling name) part) (value : List α) (runs : Runs α) :
    vocabulary.substitute name value (runs.join part) =
      (runs.map (vocabulary.substitute name value)).join
        (vocabulary.substitute name value part) := by
  have behind : ∀ (rest : List (List α)) (first : List α),
      vocabulary.substitute name value (first ++ rest.flatMap fun run => part ++ run) =
        vocabulary.substitute name value first ++
          (rest.map (vocabulary.substitute name value)).flatMap
            fun run => vocabulary.substitute name value part ++ run := by
    intro rest
    induction rest with
    | nil => simp
    | cons run rest induction =>
        intro first
        have inPart := isolated.not_straddles_right [] (run ++ rest.flatMap fun run => part ++ run)
        rw [List.nil_append] at inPart
        rw [List.flatMap_cons, List.append_assoc,
          vocabulary.substitute_append (isolated.not_straddles_left first _) value,
          vocabulary.substitute_append inPart value, induction run, List.map_cons,
          List.flatMap_cons, List.append_assoc]
  exact behind runs.rest runs.first

end Vocabulary

end PalCrosschat

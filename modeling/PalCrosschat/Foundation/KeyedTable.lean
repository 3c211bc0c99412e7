import Mathlib.Data.List.AList

/-! # Tables keyed by a field of their entries

An association list that stores each entry under the name of its identity, as a
registry does. When different identities have different names, the table is a
set of identities, and a split of its entries is a split of that set. -/

namespace PalCrosschat

abbrev KeyedTable (Key Entry : Type) := AList fun _ : Key => Entry

namespace KeyedTable

variable {Key Entry Identity : Type} [DecidableEq Key]

/-! ## Erasing many keys -/

theorem lookup_foldl_erase (keys : List Key) (table : KeyedTable Key Entry) (key : Key) :
    (keys.foldl (fun table key => table.erase key) table).lookup key =
      if key ∈ keys then none else table.lookup key := by
  induction keys generalizing table with
  | nil => simp
  | cons head tail induction =>
      rw [List.foldl_cons, induction]
      by_cases isHead : key = head
      · subst isHead
        simp
      · rw [AList.lookup_erase_ne isHead]
        simp [isHead]

theorem lookup_erase_eq (table : KeyedTable Key Entry) (erased key : Key) :
    (table.erase erased).lookup key = if key = erased then none else table.lookup key := by
  have single := lookup_foldl_erase [erased] table key
  simpa using single

theorem lookup_insert_eq (table : KeyedTable Key Entry) (inserted key : Key)
    (entry : Entry) :
    (table.insert inserted entry).lookup key =
      if key = inserted then some entry else table.lookup key := by
  split
  · rename_i same
    rw [same, AList.lookup_insert]
  · rename_i different
    exact AList.lookup_insert_ne different

/-! ## The identities of a table -/

def Keyed (name : Identity → Key) (identity : Entry → Identity)
    (table : KeyedTable Key Entry) : Prop :=
  ∀ key entry, table.lookup key = some entry → key = name (identity entry)

def select (identity : Entry → Identity) (holds : Entry → Bool)
    (table : KeyedTable Key Entry) : List Identity :=
  ((table.entries.map Sigma.snd).filter holds).map identity

theorem mem_select (identity : Entry → Identity) (holds : Entry → Bool)
    (table : KeyedTable Key Entry) (wanted : Identity) :
    wanted ∈ select identity holds table ↔
      ∃ key entry, table.lookup key = some entry ∧ identity entry = wanted ∧
        holds entry = true := by
  constructor
  · intro member
    rcases List.mem_map.mp member with ⟨entry, selected, same⟩
    rcases List.mem_filter.mp selected with ⟨stored, satisfied⟩
    rcases List.mem_map.mp stored with ⟨⟨key, found⟩, position, rfl⟩
    exact ⟨key, found, AList.mem_lookup_iff.mpr position, same, satisfied⟩
  · intro found
    rcases found with ⟨key, entry, looked, same, satisfied⟩
    have position : Sigma.mk key entry ∈ table.entries := AList.mem_lookup_iff.mp looked
    have stored : entry ∈ table.entries.map Sigma.snd := List.mem_map.mpr ⟨_, position, rfl⟩
    exact List.mem_map.mpr ⟨entry, List.mem_filter.mpr ⟨stored, satisfied⟩, same⟩

section Keyed

variable {name : Identity → Key} {identity : Entry → Identity} {table : KeyedTable Key Entry}

theorem Keyed.shrink (keyed : Keyed name identity table) {smaller : KeyedTable Key Entry}
    (kept : ∀ key entry, smaller.lookup key = some entry → table.lookup key = some entry) :
    Keyed name identity smaller :=
  fun key entry found => keyed key entry (kept key entry found)

theorem Keyed.insert (keyed : Keyed name identity table) (entry : Entry) :
    Keyed name identity (table.insert (name (identity entry)) entry) := by
  intro key found looked
  rw [lookup_insert_eq] at looked
  split at looked
  · rename_i same
    cases looked
    exact same
  · exact keyed key found looked

theorem Keyed.lookup_of_mem_select (keyed : Keyed name identity table)
    {holds : Entry → Bool} {wanted : Identity}
    (member : wanted ∈ select identity holds table) :
    ∃ entry, table.lookup (name wanted) = some entry ∧ holds entry = true := by
  rcases (mem_select _ _ _ _).mp member with ⟨key, entry, looked, same, satisfied⟩
  have stored := keyed key entry looked
  rw [same] at stored
  rw [stored] at looked
  exact ⟨entry, looked, satisfied⟩

theorem Keyed.identity_eq (keyed : Keyed name identity table)
    (injective : Function.Injective name) {wanted : Identity} {entry : Entry}
    (looked : table.lookup (name wanted) = some entry) : identity entry = wanted :=
  (injective (keyed _ entry looked)).symm

theorem Keyed.mem_select_iff (keyed : Keyed name identity table)
    (injective : Function.Injective name) (holds : Entry → Bool) (wanted : Identity) :
    wanted ∈ select identity holds table ↔
      ∃ entry, table.lookup (name wanted) = some entry ∧ holds entry = true := by
  constructor
  · exact keyed.lookup_of_mem_select
  · intro found
    rcases found with ⟨entry, looked, satisfied⟩
    exact (mem_select _ _ _ _).mpr ⟨name wanted, entry, looked,
      keyed.identity_eq injective looked, satisfied⟩

theorem Keyed.nodup_split (keyed : Keyed name identity table) (holds : Entry → Bool) :
    (select identity holds table ++ select identity (fun entry => !holds entry) table).Nodup := by
  have identities : (table.entries.map fun entry => identity entry.2).Nodup := by
    have named : (table.entries.map fun entry => identity entry.2).map name = table.keys := by
      rw [List.map_map]
      apply List.map_congr_left
      intro entry position
      exact (keyed entry.1 entry.2 (AList.mem_lookup_iff.mpr position)).symm
    apply List.Nodup.of_map name
    rw [named]
    exact table.keys_nodup
  have split := (List.filter_append_perm holds (table.entries.map Sigma.snd)).map identity
  rw [List.map_append, List.map_map] at split
  exact split.nodup_iff.mpr identities

end Keyed

end KeyedTable

end PalCrosschat

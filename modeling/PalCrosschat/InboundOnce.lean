import PalCrosschat.InboundOrder
import PalCrosschat.TargetedLines

/-! # Inbound lines are shown once

A broadcast is up to two calls, and a row goes back to the queue when one of them
stops early, whatever became of the other one. -/

namespace PalCrosschat

namespace ChatInject

section Counting

variable {engine : Engine} {category : Category} {uid : Guid} {counts : PalChatMessage → Bool}

/-- Messages that are for receivers of their calls are no more than these. -/
theorem countP_chatsOf {made : List (DisplayCall × InjectWorld)}
    (named : ∀ entry ∈ made, ∀ chat ∈ issuedChats engine category entry.1 entry.2,
      counts chat = true → uid ∈ entry.1.receivers) :
    (chatsOf engine category made).countP counts ≤
      (made.flatMap fun entry => entry.1.receivers).count uid := by
  induction made with
  | nil => exact Nat.le_refl 0
  | cons entry rest induction =>
      have later := induction fun other member => named other (List.mem_cons_of_mem entry member)
      have first : (issuedChats engine category entry.1 entry.2).countP counts ≤
          entry.1.receivers.count uid := by
        have single : (issuedChats engine category entry.1 entry.2).length ≤ 1 := by
          unfold issuedChats
          split <;> simp
        by_cases counted : ∃ chat ∈ issuedChats engine category entry.1 entry.2,
            counts chat = true
        · rcases counted with ⟨chat, issued, isCounted⟩
          have listed := named entry List.mem_cons_self chat issued isCounted
          exact (List.countP_le_length.trans single).trans (List.count_pos_iff.mpr listed)
        · rw [List.countP_eq_zero.mpr fun chat issued isCounted =>
            counted ⟨chat, issued, isCounted⟩]
          exact Nat.zero_le _
      rw [chatsOf, List.flatMap_cons, List.countP_append, List.flatMap_cons, List.count_append]
      exact Nat.add_le_add first later

theorem nodup_rowCalls {config : Config} {filter : WordFilter} {msg : InboundMessage}
    {world : InjectWorld} (wellFormed : world.audience.WellFormed) :
    ((rowCalls engine config filter msg world).flatMap fun entry => entry.1.receivers).Nodup := by
  unfold rowCalls
  cases rowDual config filter msg with
  | none => exact List.nodup_nil
  | some dual =>
      have split : ((callsFrom engine dual.xboxSender dual.xboxMessage dual.formattedSender
          dual.formattedMessage dual.senderPlayerUid world).flatMap DisplayCall.receivers).Nodup :=
        (dualSplit_callsFrom wellFormed).once
      change (List.flatMap _ (madeCalls engine config.injectCategory _ _)).Nodup
      rw [← List.flatMap_map, madeCalls_map]
      exact split

end Counting

end ChatInject

namespace DrainWorld

section Once

variable (engine : Engine) (config : Config)

/-- One of the calls for a row issues its message, and another one is to be tried
again. -/
def HalfSent (filter : WordFilter) (item : InboundMessage) (world : InjectWorld) : Prop :=
  (∃ entry ∈ ChatInject.rowCalls engine config filter item world,
    ChatInject.GetsThrough engine entry.1 entry.2) ∧
  ∃ entry ∈ ChatInject.rowCalls engine config filter item world,
    ChatInject.Stuck engine entry.1 entry.2

instance (filter : WordFilter) (item : InboundMessage) (world : InjectWorld) :
    Decidable (HalfSent engine config filter item world) :=
  inferInstanceAs (Decidable (_ ∧ _))

/-- No row is sent by halves. -/
def SentWhole (state : DrainWorld) (input : DrainInput) : Prop :=
  ∀ filter ∈ input.proceedFilter, ∀ item ∈ state.nextRow,
    ¬HalfSent engine config filter item (takeRow state.world item state.world.inbound.tryPop.2)

instance (state : DrainWorld) (input : DrainInput) :
    Decidable (SentWhole engine config state input) :=
  inferInstanceAs (Decidable (∀ _ ∈ _, ∀ _ ∈ _, ¬_))

end Once

def rowChats (state : DrainWorld) (item : InboundMessage) : List PalChatMessage :=
  (state.attempts.filter fun attempt => attempt.item = item).flatMap Attempt.chats

def CountedOnce (counts : PalChatMessage → Bool) (attempt : Attempt) : Prop :=
  attempt.chats.countP counts ≤ if attempt.sent then 1 else 0

theorem countP_rowChats {counts : PalChatMessage → Bool} {state : DrainWorld}
    (once : ∀ attempt ∈ state.attempts, CountedOnce counts attempt) (item : InboundMessage) :
    (state.rowChats item).countP counts ≤ state.sentRows.count item := by
  unfold rowChats sentRows
  generalize state.attempts = attempts at once
  induction attempts with
  | nil => exact Nat.le_refl 0
  | cons attempt rest induction =>
      have later := induction fun other member => once other (List.mem_cons_of_mem attempt member)
      have first : attempt.chats.countP counts ≤ if attempt.sent then 1 else 0 :=
        once attempt List.mem_cons_self
      by_cases same : attempt.item = item
      · have chats : ((attempt :: rest).filter fun attempt => attempt.item = item).flatMap
            Attempt.chats = attempt.chats ++
              (rest.filter fun attempt => attempt.item = item).flatMap Attempt.chats := by
          rw [List.filter_cons_of_pos (by simpa using same), List.flatMap_cons]
        have sent : (((attempt :: rest).filter Attempt.sent).map Attempt.item).count item =
            (if attempt.sent then 1 else 0) +
              ((rest.filter Attempt.sent).map Attempt.item).count item := by
          cases wasSent : attempt.sent with
          | true => simp [wasSent, same, Nat.add_comm]
          | false => simp [wasSent]
        rw [chats, List.countP_append, sent]
        exact Nat.add_le_add first later
      · have counted : ((rest.filter Attempt.sent).map Attempt.item).count item ≤
            (((attempt :: rest).filter Attempt.sent).map Attempt.item).count item :=
          ((List.sublist_cons_self attempt rest).filter _ |>.map _).count_le item
        rw [List.filter_cons_of_neg (by simpa using same)]
        exact later.trans counted

section Steps

variable {engine : Engine} {config : Config} {state : DrainWorld} {input : DrainInput}

def nextCalls (engine : Engine) (config : Config) (filter : WordFilter) (state : DrainWorld)
    (item : InboundMessage) : List (ChatInject.DisplayCall × InjectWorld) :=
  ChatInject.rowCalls engine config filter item
    (takeRow state.world item state.world.inbound.tryPop.2)

theorem mem_stepCalls_of_next {filter : WordFilter} {item : InboundMessage}
    (next : state.nextRow = some item) {entry : ChatInject.DisplayCall × InjectWorld}
    (member : entry ∈ state.nextCalls engine config filter item) :
    entry ∈ state.stepCalls engine config (.proceed filter) := by
  apply List.mem_append_right
  rw [next]
  exact member

/-- A step adds at most the attempt at the next row. -/
theorem attempts_step {Holds : Attempt → Prop}
    (kept : ∀ attempt ∈ state.attempts, Holds attempt)
    (added : ∀ filter item, input = .proceed filter → state.nextRow = some item →
      Holds
        { item
          sent := ChatInject.noneStuck engine (state.nextCalls engine config filter item)
          chats := ChatInject.chatsOf engine config.injectCategory
            (state.nextCalls engine config filter item) }) :
    ∀ attempt ∈ (state.step engine config input).attempts, Holds attempt := by
  have move := step_move engine config state input
  generalize state.step engine config input = after at move
  cases move with
  | pushed msg => exact kept
  | other pushes world point frame held => exact kept
  | putBack filter item holding => exact kept
  | attempt filter item remaining free next =>
      intro attempt member
      rcases List.mem_append.mp member with old | new
      · exact kept attempt old
      · have ended := attemptRow_endsWith engine config filter item
          (takeRow state.world item state.world.inbound.tryPop.2)
        have grown := ended.2
        rw [takeRow_chats] at grown
        rw [List.mem_singleton.mp new, ended.1, grown, List.drop_left]
        exact added filter item rfl next

/-- A row that is not sent by halves counts once. -/
theorem countedOnce_next {counts : PalChatMessage → Bool} {uid : Guid} {filter : WordFilter}
    {item : InboundMessage} (wellFormed : state.world.audience.WellFormed)
    (whole : ¬HalfSent engine config filter item
      (takeRow state.world item state.world.inbound.tryPop.2))
    (named : ∀ entry ∈ state.nextCalls engine config filter item,
      ∀ chat ∈ ChatInject.issuedChats engine config.injectCategory entry.1 entry.2,
        counts chat = true → uid ∈ entry.1.receivers) :
    CountedOnce counts
      { item
        sent := ChatInject.noneStuck engine (state.nextCalls engine config filter item)
        chats := ChatInject.chatsOf engine config.injectCategory
          (state.nextCalls engine config filter item) } := by
  have counted := ChatInject.countP_chatsOf named
  have distinct : ((state.nextCalls engine config filter item).flatMap fun entry =>
      entry.1.receivers).Nodup := ChatInject.nodup_rowCalls wellFormed
  have atMostOne := List.nodup_iff_count_le_one.mp distinct uid
  unfold CountedOnce
  cases sent : ChatInject.noneStuck engine (state.nextCalls engine config filter item) with
  | true => exact counted.trans atMostOne
  | false =>
      -- Some call is to be tried again, so none has issued anything.
      rcases List.all_eq_false.mp sent with ⟨entry, member, isStuck⟩
      have stuck : ChatInject.Stuck engine entry.1 entry.2 := by simpa using isStuck
      have silent : ChatInject.chatsOf engine config.injectCategory
          (state.nextCalls engine config filter item) = [] := by
        apply List.flatMap_eq_nil_iff.mpr
        intro other made
        apply List.eq_nil_iff_forall_not_mem.mpr
        intro chat issued
        have reaches := ((ChatInject.mem_issuedChats engine _).mp issued).1
        exact whole ⟨⟨other, made, reaches⟩, entry, member, stuck⟩
      simp only [silent]
      exact Nat.le_refl 0

end Steps

/-! ## Main result -/

section Runs

variable {engine : Engine} {config : Config} {inputs : List DrainInput}

theorem count_sentRows (inputs : List DrainInput) (item : InboundMessage) :
    (run engine config inputs).sentRows.count item ≤ (pushedRows inputs).count item := by
  have sound := sound_run engine config inputs
  have conserved : (pushedRows inputs).Perm
      ((run engine config inputs).view.items ++ (run engine config inputs).view.evicted) := by
    rw [← sound.pushed]
    exact sound.conserved
  rw [conserved.count_eq item]
  apply List.Sublist.count_le
  unfold RetryQueue.items
  rw [List.append_assoc, List.append_assoc]
  exact List.sublist_append_left _ _

/-- While rows are not sent by halves, counted messages that are for receivers of their
calls stay single. -/
theorem countP_rowChats_le {Allowed : DrainWorld → DrainInput → Prop}
    {counts : PalChatMessage → Bool} (uid : Guid)
    (allowed : Execution.Along (step engine config) Allowed {} inputs)
    (whole : ∀ state input, Allowed state input → SentWhole engine config state input)
    (named : ∀ state filter item, Allowed state (.proceed filter) → state.nextRow = some item →
      ∀ entry ∈ state.nextCalls engine config filter item,
        ∀ chat ∈ ChatInject.issuedChats engine config.injectCategory entry.1 entry.2,
          counts chat = true → uid ∈ entry.1.receivers)
    {item : InboundMessage} (once : (pushedRows inputs).count item ≤ 1) :
    ((run engine config inputs).rowChats item).countP counts ≤ 1 := by
  have counted : ∀ attempt ∈ (run engine config inputs).attempts, CountedOnce counts attempt := by
    refine Execution.run_along_invariant
      (fun _ (state : DrainWorld) => ∀ attempt ∈ state.attempts, CountedOnce counts attempt)
      (fun _ member => absurd member List.not_mem_nil) ?_ inputs allowed
    intro past input allowedHere kept
    apply attempts_step kept
    intro filter item isProceed next
    rw [isProceed] at allowedHere
    apply countedOnce_next (wellFormed_run engine config past)
    · exact whole _ _ allowedHere filter rfl item next
    · exact named _ filter item allowedHere next
  exact (countP_rowChats counted item).trans ((count_sentRows inputs item).trans once)

end Runs

/-- While no row is sent by halves, no player is a receiver of two messages issued for
a row, however often it goes back to the queue; and when the arrays can be filled,
no player gets a second one that is for everybody. -/
theorem inbound_once (engine : Engine) (config : Config) (inputs : List DrainInput)
    (item : InboundMessage) (once : (pushedRows inputs).count item ≤ 1)
    (whole : Execution.Along (step engine config) (SentWhole engine config) {} inputs) :
    (∀ uid, ((run engine config inputs).rowChats item).countP
      (fun chat => uid ∈ chat.receiverPlayerUIds) ≤ 1) ∧
    ((∀ moment, engine.gameMalloc moment = true) →
      Execution.Along (step engine config) (ReceiversFit engine config) {} inputs →
      ∀ uid, ((run engine config inputs).rowChats item).countP
        (fun chat => chat.Reaches uid) ≤ 1) := by
  constructor
  · intro uid
    apply countP_rowChats_le uid whole (fun _ _ allowed => allowed) ?_ once
    intro state filter item allowed next entry member chat issued listed
    rcases (ChatInject.mem_issuedChats engine _).mp issued with ⟨-, equal⟩
    rw [equal, ChatInject.filledChat_receivers] at listed
    split at listed
    · simpa using listed
    · simp at listed
  · intro allocates fit uid
    have both : Execution.Along (step engine config)
        (fun state input => SentWhole engine config state input ∧
          ReceiversFit engine config state input) {} inputs :=
      Execution.along_and.mpr ⟨whole, fit⟩
    apply countP_rowChats_le uid both (fun _ _ allowed => allowed.1) ?_ once
    intro state filter item allowed next entry member chat issued reaches
    rcases (ChatInject.mem_issuedChats engine _).mp issued with ⟨getsThrough, equal⟩
    have inStep := mem_stepCalls_of_next next member
    have filled : ChatInject.Filled engine entry.1 entry.2 :=
      ⟨allowed.2 entry inStep getsThrough, allocates _⟩
    have isReached : chat.Reaches uid := by simpa using reaches
    rw [PalChatMessage.Reaches, equal, ChatInject.filledChat_receivers, if_pos filled] at isReached
    exact isReached.resolve_left (stepCalls_receivers engine config inStep)

def attributedRow : InboundMessage :=
  { remoteRow 1 (Bytes.ascii "hello") with senderId := formatGuid { a := 1 } }

/-- The row is broadcast to that player and to one on Xbox, in two ticks if need be. -/
def attributedTicks : List DrainInput :=
  [.roster (.upsert { a := 1 } [] 7), .roster (.upsert { a := 2 } (Bytes.ascii "gdk_2") 8)] ++
    wholeTick ++ [.elapse 100, .inboundPushed attributedRow] ++ wholeTick ++ wholeTick

theorem inbound_once_attributed :
    (pushedRows attributedTicks).count attributedRow ≤ 1 ∧
      Execution.Along (step quietEngine plainConfig) (SentWhole quietEngine plainConfig) {}
        attributedTicks ∧
      ((run quietEngine plainConfig attributedTicks).rowChats attributedRow).countP
        (fun chat => ({ a := 1 } : Guid) ∈ chat.receiverPlayerUIds) ≤ 1 := by
  have once : (pushedRows attributedTicks).count attributedRow ≤ 1 := by decide +kernel
  have whole : Execution.Along (step quietEngine plainConfig)
      (SentWhole quietEngine plainConfig) {} attributedTicks := by
    decide +kernel
  exact ⟨once, whole, (inbound_once quietEngine plainConfig attributedTicks attributedRow once
    whole).1 { a := 1 }⟩

/-- The GameState is gone for the second call, and the first one is made again. -/
theorem attributed_shown_twice :
    (pushedRows attributedTicks).count attributedRow = 1 ∧
      ((run (flickeringEngine 116) plainConfig attributedTicks).rowChats attributedRow).countP
        (fun chat => ({ a := 1 } : Guid) ∈ chat.receiverPlayerUIds) = 2 := by
  decide +kernel

end DrainWorld

end PalCrosschat

import Mathlib.Data.List.Perm.Basic
import Mathlib.Data.List.Nodup
import PalCrosschat.Foundation.BoundedDeque
import PalCrosschat.Foundation.Execution

/-! # Deferred delivery

Items are delivered under a name. An item whose name is known when it is
submitted is delivered at once. The others wait in a deque that drops its oldest
entry, and the next flush names and delivers all of them. Times are positions in
the list of events. -/

namespace PalCrosschat

namespace Deferral

inductive Event (Item Name : Type)
  | submit (item : Item) (known : Option Name)
  /-- Everything that waits is delivered; the name of an item may depend on its
  position. -/
  | flush (names : Nat → Name)
  | idle

structure Ticket (Item Name : Type) where
  time : Nat
  item : Item
  known : Option Name

structure Delivery (Item Name : Type) where
  ticket : Ticket Item Name
  name : Name
  time : Nat

structure Desk (limit : Nat) (Item Name : Type) where
  time : Nat := 0
  waiting : BoundedDeque limit (Ticket Item Name) := .empty
  evicted : List (Ticket Item Name) := []
  delivered : List (Delivery Item Name) := []

namespace Desk

variable {limit : Nat} [NeZero limit] {Item Name : Type}

def issue (desk : Desk limit Item Name) (item : Item) (known : Option Name) :
    Ticket Item Name where
  time := desk.time
  item
  known

def submit (desk : Desk limit Item Name) (item : Item) : Option Name → Desk limit Item Name
  | some name =>
      { desk with
        delivered := desk.delivered ++
          [{ ticket := desk.issue item (some name), name, time := desk.time }] }
  | none =>
      { desk with
        waiting := desk.waiting.push (desk.issue item none)
        evicted := desk.evicted ++ desk.waiting.evicted.toList }

def flush (desk : Desk limit Item Name) (names : Nat → Name) : Desk limit Item Name :=
  { desk with
    waiting := .empty
    delivered := desk.delivered ++ desk.waiting.items.mapIdx fun position ticket =>
      { ticket, name := names position, time := desk.time } }

def handle (desk : Desk limit Item Name) : Event Item Name → Desk limit Item Name
  | .submit item known => desk.submit item known
  | .flush names => desk.flush names
  | .idle => desk

def step (desk : Desk limit Item Name) (event : Event Item Name) : Desk limit Item Name :=
  { desk.handle event with time := desk.time + 1 }

def after (limit : Nat) [NeZero limit] (events : List (Event Item Name)) :
    Desk limit Item Name :=
  Execution.run step {} events

def tickets (desk : Desk limit Item Name) : List (Ticket Item Name) :=
  desk.delivered.map (·.ticket) ++ desk.waiting.items ++ desk.evicted

end Desk

/-! ## What the events say -/

section Events

variable {Item Name : Type} {events : List (Event Item Name)} {event : Event Item Name}

def Submitted (events : List (Event Item Name)) (ticket : Ticket Item Name) : Prop :=
  events[ticket.time]? = some (.submit ticket.item ticket.known)

def NoFlush (events : List (Event Item Name)) (first last : Nat) : Prop :=
  ∀ time names, first < time → time < last → events[time]? ≠ some (.flush names)

theorem Submitted.time_lt {ticket : Ticket Item Name} (submitted : Submitted events ticket) :
    ticket.time < events.length :=
  (List.getElem?_eq_some_iff.mp submitted).1

theorem submitted_snoc {ticket : Ticket Item Name} :
    Submitted (events ++ [event]) ticket ↔
      Submitted events ticket ∨
        ticket.time = events.length ∧ event = .submit ticket.item ticket.known := by
  unfold Submitted
  rcases Nat.lt_trichotomy ticket.time events.length with earlier | now | later
  · rw [List.getElem?_append_left earlier]
    simp [Nat.ne_of_lt earlier]
  · simp [now]
  · rw [List.getElem?_eq_none (by simp; omega), List.getElem?_eq_none (by omega)]
    simp [Nat.ne_of_gt later]

theorem noFlush_snoc {first last : Nat} (within : last ≤ events.length) :
    NoFlush (events ++ [event]) first last ↔ NoFlush events first last := by
  have same : ∀ time, time < last → (events ++ [event])[time]? = events[time]? :=
    fun time before => List.getElem?_append_left (Nat.lt_of_lt_of_le before within)
  constructor
  · intro quiet time names after before
    exact same time before ▸ quiet time names after before
  · intro quiet time names after before
    exact same time before ▸ quiet time names after before

theorem NoFlush.extend {first : Nat} (quiet : NoFlush events first events.length)
    (noFlush : ∀ names, event ≠ .flush names) :
    NoFlush (events ++ [event]) first (events ++ [event]).length := by
  intro time names after before
  rw [List.length_append, List.length_singleton] at before
  rcases Nat.lt_or_eq_of_le (Nat.le_of_lt_succ before) with earlier | rfl
  · exact (noFlush_snoc (Nat.le_refl _)).mpr quiet time names after earlier
  · simpa using noFlush names

/-- When a delivery happens: at once under the known name, or at the next flush. -/
inductive Delivery.Timely (events : List (Event Item Name)) (delivery : Delivery Item Name) :
    Prop
  | atOnce (known : delivery.ticket.known = some delivery.name)
      (now : delivery.time = delivery.ticket.time)
  | flushed (names : Nat → Name) (unknown : delivery.ticket.known = none)
      (later : delivery.ticket.time < delivery.time)
      (flush : events[delivery.time]? = some (.flush names))
      (next : NoFlush events delivery.ticket.time delivery.time)

def Overrun (limit : Nat) (events : List (Event Item Name)) (ticket : Ticket Item Name) :
    Prop :=
  ticket.known = none ∧ ∃ newer : List (Ticket Item Name), newer.length = limit ∧
    (ticket :: newer).Pairwise (fun first second => first.time < second.time) ∧
    ∀ other ∈ newer, Submitted events other ∧ other.known = none ∧
      NoFlush events ticket.time other.time

def Steady {Key : Type} (key : Item → Key) (events : List (Event Item Name)) : Prop :=
  ∀ first second, Submitted events first → Submitted events second →
    key first.item = key second.item → first.known = none → first.time < second.time →
    NoFlush events first.time second.time → second.known = none

theorem Submitted.snoc {ticket : Ticket Item Name} (submitted : Submitted events ticket) :
    Submitted (events ++ [event]) ticket :=
  submitted_snoc.mpr (.inl submitted)

theorem Delivery.Timely.snoc {delivery : Delivery Item Name}
    (timely : delivery.Timely events) : delivery.Timely (events ++ [event]) := by
  cases timely with
  | atOnce known now => exact .atOnce known now
  | flushed names unknown later flush next =>
      have within := (List.getElem?_eq_some_iff.mp flush).1
      exact .flushed names unknown later ((List.getElem?_append_left within).trans flush)
        ((noFlush_snoc (Nat.le_of_lt within)).mpr next)

theorem Overrun.snoc {limit : Nat} {ticket : Ticket Item Name}
    (overrun : Overrun limit events ticket) : Overrun limit (events ++ [event]) ticket := by
  rcases overrun with ⟨unknown, newer, length, sorted, others⟩
  refine ⟨unknown, newer, length, sorted, fun other member => ?_⟩
  rcases others other member with ⟨submitted, otherUnknown, quiet⟩
  exact ⟨submitted.snoc, otherUnknown,
    (noFlush_snoc (Nat.le_of_lt submitted.time_lt)).mpr quiet⟩

theorem Steady.of_snoc {Key : Type} {key : Item → Key}
    (steady : Steady key (events ++ [event])) : Steady key events := by
  intro first second firstSubmitted secondSubmitted sameKey unknown earlier quiet
  exact steady first second firstSubmitted.snoc secondSubmitted.snoc sameKey unknown earlier
    ((noFlush_snoc (Nat.le_of_lt secondSubmitted.time_lt)).mpr quiet)

end Events

/-! ## Accounts -/

section Accounts

variable {limit : Nat} {Item Name : Type}

/-- The desk knows every submitted item once, and it did with it what the events
asked for. -/
structure Desk.Accounts (desk : Desk limit Item Name) (events : List (Event Item Name)) :
    Prop where
  time : desk.time = events.length
  submitted : ∀ ticket, ticket ∈ desk.tickets ↔ Submitted events ticket
  once : (desk.tickets.map (·.time)).Nodup
  delivered : ∀ delivery ∈ desk.delivered, delivery.Timely events
  waiting : ∀ ticket ∈ desk.waiting.items,
    ticket.known = none ∧ NoFlush events ticket.time events.length
  sorted : desk.waiting.items.Pairwise fun first second => first.time < second.time
  evicted : ∀ ticket ∈ desk.evicted, Overrun limit events ticket

def Desk.newTicket (desk : Desk limit Item Name) :
    Event Item Name → Option (Ticket Item Name)
  | .submit item known => some (desk.issue item known)
  | .flush _ | .idle => none

variable {desk : Desk limit Item Name} {events : List (Event Item Name)}

theorem Desk.flush_delivered (desk : Desk limit Item Name) (names : Nat → Name) :
    (desk.flush names).delivered.map (·.ticket) =
      desk.delivered.map (·.ticket) ++ desk.waiting.items := by
  rw [flush, List.map_append]
  exact congrArg (desk.delivered.map (·.ticket) ++ ·)
    (List.ext_getElem (by simp) (by simp))

namespace Desk.Accounts

theorem time_lt (accounts : desk.Accounts events) {ticket : Ticket Item Name}
    (member : ticket ∈ desk.tickets) : ticket.time < events.length :=
  ((accounts.submitted ticket).mp member).time_lt

theorem mem_tickets_of_waiting {ticket : Ticket Item Name}
    (member : ticket ∈ desk.waiting.items) : ticket ∈ desk.tickets := by
  simp [tickets, member]

theorem sorted_submit (accounts : desk.Accounts events) (item : Item) :
    (desk.waiting.items ++ [desk.issue item none]).Pairwise
      fun first second => first.time < second.time := by
  rw [List.pairwise_append]
  refine ⟨accounts.sorted, List.pairwise_singleton _ _, ?_⟩
  intro ticket member new newMember
  rw [List.mem_singleton.mp newMember, issue, accounts.time]
  exact accounts.time_lt (mem_tickets_of_waiting member)

theorem overrun_of_evicted (accounts : desk.Accounts events) (item : Item)
    {oldest : Ticket Item Name} (dropped : desk.waiting.evicted = some oldest) :
    Overrun limit (events ++ [.submit item none]) oldest := by
  rcases BoundedDeque.items_of_evicted dropped with ⟨split, full⟩
  have sorted := accounts.sorted_submit item
  have oldestWaits : oldest ∈ desk.waiting.items := by simp [split]
  rcases accounts.waiting oldest oldestWaits with ⟨unknown, quiet⟩
  have quietSince : ∀ last, last ≤ events.length →
      NoFlush (events ++ [.submit item none]) oldest.time last := by
    intro last within
    rw [noFlush_snoc within]
    exact fun time names after before => quiet time names after (Nat.lt_of_lt_of_le before within)
  refine ⟨unknown, desk.waiting.survivors ++ [desk.issue item none], ?_, ?_, ?_⟩
  · rw [split] at full
    simpa using full
  · rw [split] at sorted
    exact sorted
  · intro other member
    rcases List.mem_append.mp member with old | new
    · have otherWaits : other ∈ desk.waiting.items := by simp [split, old]
      have submitted := (accounts.submitted other).mp (mem_tickets_of_waiting otherWaits)
      exact ⟨submitted.snoc, (accounts.waiting other otherWaits).1,
        quietSince _ (Nat.le_of_lt submitted.time_lt)⟩
    · rw [List.mem_singleton.mp new, issue, accounts.time]
      exact ⟨submitted_snoc.mpr (.inr ⟨rfl, rfl⟩), rfl, quietSince _ (Nat.le_refl _)⟩

end Desk.Accounts

variable [NeZero limit]

theorem Desk.tickets_step (desk : Desk limit Item Name) (event : Event Item Name) :
    (desk.step event).tickets.Perm (desk.tickets ++ (desk.newTicket event).toList) := by
  classical
  rw [List.perm_iff_count]
  intro other
  cases event with
  | submit item known =>
      cases known with
      | some name =>
          simp only [step, handle, submit, tickets, newTicket, List.map_append,
            List.map_cons, List.map_nil, Option.toList_some, List.count_append]
          omega
      | none =>
          have kept := congrArg (List.count other) desk.waiting.evicted_append_survivors
          simp only [step, handle, submit, tickets, newTicket, BoundedDeque.push_items,
            Option.toList_some, List.count_append] at kept ⊢
          omega
  | flush names =>
      have moved := congrArg (List.count other) (desk.flush_delivered names)
      have none : (desk.flush names).waiting.items = [] := rfl
      have evicted : (desk.flush names).evicted = desk.evicted := rfl
      simp only [step, handle, tickets, newTicket, none, evicted, Option.toList_none,
        List.count_append, List.count_nil] at moved ⊢
      omega
  | idle => simp [step, handle, tickets, newTicket]

namespace Desk.Accounts

theorem submitted_step (accounts : desk.Accounts events) (event : Event Item Name)
    (ticket : Ticket Item Name) :
    ticket ∈ (desk.step event).tickets ↔ Submitted (events ++ [event]) ticket := by
  rw [(desk.tickets_step event).mem_iff, List.mem_append, accounts.submitted, submitted_snoc]
  refine or_congr_right ?_
  cases event with
  | submit item known =>
      rcases ticket with ⟨time, other, otherKnown⟩
      simp [newTicket, issue, accounts.time, eq_comm]
  | flush names => simp [newTicket]
  | idle => simp [newTicket]

theorem once_step (accounts : desk.Accounts events) (event : Event Item Name) :
    ((desk.step event).tickets.map (·.time)).Nodup := by
  rw [((desk.tickets_step event).map _).nodup_iff, List.map_append, List.nodup_append]
  refine ⟨accounts.once, ?_, ?_⟩
  · cases event <;> simp [newTicket]
  · intro old oldMember new newMember same
    rcases List.mem_map.mp oldMember with ⟨ticket, member, rfl⟩
    have earlier := accounts.time_lt member
    have now : new = events.length := by
      rw [← accounts.time]
      cases event <;> simp_all [newTicket, issue]
    omega

theorem step (accounts : desk.Accounts events) (event : Event Item Name) :
    (desk.step event).Accounts (events ++ [event]) := by
  have stillWaiting (noFlush : ∀ names, event ≠ .flush names) :
      ∀ ticket ∈ desk.waiting.items, ticket.known = none ∧
        NoFlush (events ++ [event]) ticket.time (events ++ [event]).length :=
    fun ticket member => ⟨(accounts.waiting ticket member).1,
      (accounts.waiting ticket member).2.extend noFlush⟩
  have time : (desk.step event).time = (events ++ [event]).length := by
    rw [List.length_append, ← accounts.time]
    rfl
  cases event with
  | submit item known =>
      cases known with
      | some name =>
          refine ⟨time, accounts.submitted_step _, accounts.once_step _, ?_,
            stillWaiting nofun, accounts.sorted,
            fun ticket member => (accounts.evicted ticket member).snoc⟩
          intro delivery member
          rcases List.mem_append.mp member with old | new
          · exact (accounts.delivered delivery old).snoc
          · rw [List.mem_singleton.mp new]
            exact .atOnce rfl rfl
      | none =>
          refine ⟨time, accounts.submitted_step _, accounts.once_step _,
            fun delivery member => (accounts.delivered delivery member).snoc, ?_, ?_, ?_⟩
          · intro ticket member
            rcases BoundedDeque.mem_push member with old | rfl
            · exact stillWaiting nofun ticket old
            · refine ⟨rfl, fun time names after before => ?_⟩
              simp only [issue, accounts.time, List.length_append, List.length_singleton]
                at after before
              omega
          · have kept := desk.waiting.survivors_suffix.sublist
            exact (accounts.sorted_submit item).sublist (kept.append_right _)
          · intro ticket member
            rcases List.mem_append.mp member with old | new
            · exact (accounts.evicted ticket old).snoc
            · exact accounts.overrun_of_evicted item (Option.mem_toList.mp new)
  | flush names =>
      refine ⟨time, accounts.submitted_step _, accounts.once_step _, ?_, nofun, .nil,
        fun ticket member => (accounts.evicted ticket member).snoc⟩
      intro delivery member
      rcases List.mem_append.mp member with old | new
      · exact (accounts.delivered delivery old).snoc
      · rcases List.mem_mapIdx.mp new with ⟨position, inside, rfl⟩
        have waits : desk.waiting.items[position] ∈ desk.waiting.items := List.getElem_mem _
        rcases accounts.waiting _ waits with ⟨unknown, quiet⟩
        have earlier := accounts.time_lt (mem_tickets_of_waiting waits)
        refine .flushed names unknown ?_ ?_ ?_
        · exact accounts.time ▸ earlier
        · simp [accounts.time]
        · rw [accounts.time]
          exact (noFlush_snoc (Nat.le_refl _)).mpr quiet
  | idle =>
      exact ⟨time, accounts.submitted_step _, accounts.once_step _,
        fun delivery member => (accounts.delivered delivery member).snoc,
        stillWaiting nofun, accounts.sorted,
        fun ticket member => (accounts.evicted ticket member).snoc⟩

end Desk.Accounts

theorem accounts_after (events : List (Event Item Name)) :
    (Desk.after limit events).Accounts events := by
  refine Execution.run_history_invariant
    (fun events (desk : Desk limit Item Name) => desk.Accounts events)
    ?_ (fun past event accounts => accounts.step event) events
  exact ⟨rfl, by simp [Desk.tickets, Submitted], .nil, nofun, nofun, .nil, nofun⟩

end Accounts

/-! ## Order -/

section Order

variable {limit : Nat} {Item Name Key : Type} {key : Item → Key}

/-- Items with one key are delivered, and wait, in the order of their submission. -/
def Desk.InOrder (key : Item → Key) (desk : Desk limit Item Name) : Prop :=
  (desk.delivered.map (·.ticket) ++ desk.waiting.items).Pairwise fun first second =>
    key first.item = key second.item → first.time < second.time

variable [NeZero limit] {desk : Desk limit Item Name} {events : List (Event Item Name)}

theorem Desk.InOrder.step (inOrder : desk.InOrder key) (accounts : desk.Accounts events)
    (event : Event Item Name) (steady : Steady key (events ++ [event])) :
    (desk.step event).InOrder key := by
  have earlier : ∀ ticket ∈ desk.delivered.map (·.ticket) ++ desk.waiting.items,
      ∀ item known, ticket.time < (desk.issue item known).time := by
    intro ticket member item known
    have known := accounts.time_lt (List.mem_append_left desk.evicted member)
    rwa [← accounts.time] at known
  rcases List.pairwise_append.mp inOrder with ⟨delivered, waiting, across⟩
  cases event with
  | submit item known =>
      cases known with
      | some name =>
          -- Nothing with the same key waits, so the new delivery overtakes nothing.
          have alone : ∀ ticket ∈ desk.waiting.items, key item ≠ key ticket.item := by
            intro ticket member same
            have old := (accounts.submitted ticket).mp
              (Accounts.mem_tickets_of_waiting member)
            rcases accounts.waiting ticket member with ⟨unknown, quiet⟩
            have new : Submitted (events ++ [.submit item (some name)])
                { time := events.length, item, known := some name } :=
              submitted_snoc.mpr (.inr ⟨rfl, rfl⟩)
            cases steady ticket _ old.snoc new same.symm unknown old.time_lt
              ((noFlush_snoc (Nat.le_refl _)).mpr quiet)
          have moved : ((desk.step (.submit item (some name))).delivered.map (·.ticket) ++
              (desk.step (.submit item (some name))).waiting.items) =
              desk.delivered.map (·.ticket) ++
                ([desk.issue item (some name)] ++ desk.waiting.items) := by
            simp [Desk.step, handle, submit]
          rw [InOrder, moved, List.pairwise_append, List.singleton_append, List.pairwise_cons]
          refine ⟨delivered, ⟨fun ticket member same => absurd same (alone ticket member),
            waiting⟩, ?_⟩
          intro first member second rest
          rcases List.mem_cons.mp rest with rfl | waits
          · exact fun _ => earlier first (List.mem_append_left _ member) item (some name)
          · exact across first member second waits
      | none =>
          have kept : (desk.delivered.map (·.ticket) ++
              (desk.waiting.survivors ++ [desk.issue item none])).Sublist
                ((desk.delivered.map (·.ticket) ++ desk.waiting.items) ++
                  [desk.issue item none]) := by
            rw [List.append_assoc]
            exact (desk.waiting.survivors_suffix.sublist.append_right _).append_left _
          refine List.Pairwise.sublist kept (List.pairwise_append.mpr
            ⟨inOrder, List.pairwise_singleton _ _, ?_⟩)
          intro first member second new
          rw [List.mem_singleton.mp new]
          exact fun _ => earlier first member item none
  | flush names =>
      have moved : ((desk.step (.flush names)).delivered.map (·.ticket) ++
          (desk.step (.flush names)).waiting.items) =
          desk.delivered.map (·.ticket) ++ desk.waiting.items :=
        (List.append_nil _).trans (desk.flush_delivered names)
      rw [InOrder, moved]
      exact inOrder
  | idle => exact inOrder

theorem inOrder_after (events : List (Event Item Name)) (steady : Steady key events) :
    (Desk.after limit events).InOrder key := by
  have initial : ({} : Desk limit Item Name).InOrder key := List.Pairwise.nil
  have ordered := Execution.run_history_invariant
    (fun events (desk : Desk limit Item Name) => Steady key events → desk.InOrder key)
    (fun _ => initial)
    (fun past event inOrder steady =>
      (inOrder steady.of_snoc).step (accounts_after past) event steady)
    events
  exact ordered steady

end Order

end Deferral

end PalCrosschat

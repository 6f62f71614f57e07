import MinimaxProxy.Sim.Runs
import Mathlib.Data.Finset.Card

/-!
# Shared work

Callers that ask for the same key share one flight. The first caller leads it: it puts the
flight into a map, waits for one of a number of slots, works, stores the result, frees the slot,
takes the flight out of the map and closes it. The others wait until it is closed. A caller may
give up while it waits. A flight is named by its leader; every caller makes one call.
-/

namespace Sim.Flight
variable {ι K R : Type}

/-- Where a call is. -/
inductive Phase (ι R : Type)
  | idle
  /-- Its flight is in the map, and it waits for a slot. -/
  | queued
  | working
  /-- The result is stored, and the slot not yet freed. -/
  | worked
  /-- The slot is freed, and the flight still in the map. -/
  | ending
  | waiting (leader : ι)
  | returned (r : R)

namespace Phase

def Leading : Phase ι R → Prop
  | queued | working | worked | ending => True
  | _ => False

/-- The call is over. -/
def isReturned : Phase ι R → Bool
  | returned _ => true
  | _ => false

theorem Leading.not_returned {phase : Phase ι R} (h : phase.Leading) : ¬ phase.isReturned = true := by
  cases phase <;> first | exact h.elim | nofun

def Holding : Phase ι R → Prop
  | working | worked => True
  | _ => False

/-- The result is stored. -/
def Stored : Phase ι R → Prop
  | worked | ending => True
  | _ => False

end Phase

/-- What a flight shares: the result, which is a zero value at first, and how often it was closed. -/
structure Shared (R : Type) where
  result : R
  closed : Nat := 0

structure State (ι K R : Type) where
  phase : ι → Phase ι R
  flights : K → Option ι
  /-- The slots that are taken. -/
  slots : Nat
  heap : ι → Option (Shared R)

/-- What the callers do beside sharing. -/
structure Protocol (ι K R : Type) where
  key : ι → K
  capacity : Nat
  zero : R
  /-- A call may ask for a flight. -/
  shares : ι → Prop
  /-- What a call returns without a flight. -/
  direct : ι → R → Prop
  /-- What a call returns that gives up. -/
  cancelled : ι → R → Prop
  /-- What the work of a call gives. -/
  product : ι → R → Prop

/-- The steps of a call. -/
inductive Act (R : Type)
  | skip (r : R)
  | enter
  | acquire
  | abandon (r : R)
  | finish (r : R)
  | release
  | close
  | receive
  | leave (r : R)

variable [DecidableEq ι]

namespace State

/-- No call has begun. -/
def start : State ι K R := ⟨fun _ => .idle, fun _ => none, 0, fun _ => none⟩

/-- A call is in another phase. -/
def go (s : State ι K R) (i : ι) (phase : Phase ι R) : State ι K R := { s with phase := Function.update s.phase i phase }

theorem go_self (s : State ι K R) (i : ι) (phase : Phase ι R) : (s.go i phase).phase i = phase := Function.update_self ..

theorem go_of_ne (s : State ι K R) {i j : ι} (phase : Phase ι R) (ne : j ≠ i) : (s.go i phase).phase j = s.phase j :=
  Function.update_of_ne ne ..

end State

variable [DecidableEq K]

namespace Protocol
variable (p : Protocol ι K R)

/-- The state after a step of a call, if it can be taken. -/
def next (s : State ι K R) : ι × Act R → Option (State ι K R)
  | (i, .skip r) => match s.phase i with
    | .idle => some (s.go i (.returned r))
    | _ => none
  | (i, .enter) => match s.phase i with
    | .idle => match s.flights (p.key i) with
      | some l => some (s.go i (.waiting l))
      | none =>
        some { s.go i .queued with
          flights := Function.update s.flights (p.key i) (some i)
          heap := Function.update s.heap i (some ⟨p.zero, 0⟩) }
    | _ => none
  | (i, .acquire) => match s.phase i with
    | .queued => if s.slots < p.capacity then some { s.go i .working with slots := s.slots + 1 } else none
    | _ => none
  | (i, .abandon r) => match s.phase i with
    | .queued => some { s.go i .ending with heap := Function.update s.heap i ((s.heap i).map ({ · with result := r })) }
    | _ => none
  | (i, .finish r) => match s.phase i with
    | .working => some { s.go i .worked with heap := Function.update s.heap i ((s.heap i).map ({ · with result := r })) }
    | _ => none
  | (i, .release) => match s.phase i with
    | .worked => some { s.go i .ending with slots := s.slots - 1 }
    | _ => none
  | (i, .close) => match s.phase i, s.heap i with
    | .ending, some f => some { s.go i (.returned f.result) with
        flights := Function.update s.flights (p.key i) none, heap := Function.update s.heap i (some { f with closed := f.closed + 1 }) }
    | _, _ => none
  | (i, .receive) => match s.phase i with
    | .waiting l => match s.heap l with
      | some f => if f.closed = 0 then none else some (s.go i (.returned f.result))
      | none => none
    | _ => none
  | (i, .leave r) => match s.phase i with
    | .waiting _ => some (s.go i (.returned r))
    | _ => none

/-- The results that a step may bring. -/
def Allowed (_ : State ι K R) : ι × Act R → Prop
  | (i, .skip r) => p.direct i r
  | (i, .enter) => p.shares i
  | (i, .abandon r) | (i, .leave r) => p.cancelled i r
  | (i, .finish r) => p.product i r
  | _ => True

/-- The states of all interleavings. -/
def Reaches (s : State ι K R) : Prop := Run (fun s l t => p.next s l = some t) p.Allowed .start s

/-- What a flight led by `i` may end with. -/
def Ends (i : ι) (r : R) : Prop := p.product i r ∨ p.cancelled i r

end Protocol

/-! ## The invariant -/

/-- What holds in every state. -/
structure Inv (p : Protocol ι K R) (s : State ι K R) : Prop where
  mapped : ∀ k l, s.flights k = some l → p.key l = k ∧ (s.phase l).Leading
  leading : ∀ i, (s.phase i).Leading → s.flights (p.key i) = some i ∧ ∃ f, s.heap i = some f ∧ f.closed = 0
  stored : ∀ i f, (s.phase i).Stored → s.heap i = some f → p.Ends i f.result
  /-- The slots are those of the calls that hold one. -/
  holders : ∃ H : Finset ι, H.card = s.slots ∧ ∀ i, i ∈ H ↔ (s.phase i).Holding
  bound : s.slots ≤ p.capacity
  /-- A flight is open while it is led, and closed once when its leader has returned. -/
  flight : ∀ i f, s.heap i = some f →
    (s.phase i).Leading ∨ (s.phase i = .returned f.result ∧ f.closed = 1 ∧ p.Ends i f.result)
  waiting : ∀ i l, s.phase i = .waiting l → p.key l = p.key i ∧ (s.heap l).isSome
  returned : ∀ i r, s.phase i = .returned r → p.direct i r ∨ p.cancelled i r ∨ ∃ l, p.key l = p.key i ∧ p.Ends l r

section
variable {p : Protocol ι K R} {s t : State ι K R} {i : ι}

omit [DecidableEq ι] [DecidableEq K] in
theorem inv_start : Inv p .start where
  mapped := nofun
  leading := nofun
  stored := nofun
  holders := ⟨∅, rfl, fun _ => ⟨nofun, nofun⟩⟩
  bound := Nat.zero_le _
  flight := nofun
  waiting := nofun
  returned := nofun

/-- One call has gone on, and what it has done keeps to the invariant. -/
structure Goes (p : Protocol ι K R) (s : State ι K R) (i : ι) (t : State ι K R) : Prop where
  phase : ∀ j, j ≠ i → t.phase j = s.phase j
  heap : ∀ j, j ≠ i → t.heap j = s.heap j
  flown : (s.heap i).isSome → (t.heap i).isSome
  flights : ∀ k, k ≠ p.key i → t.flights k = s.flights k
  /-- The flight of its key is that of another leader as before, and its own if it leads. -/
  kept : ∀ l, l ≠ i → (t.flights (p.key i) = some l ↔ s.flights (p.key i) = some l)
  own : t.flights (p.key i) = some i ↔ (t.phase i).Leading
  stillOpen : (t.phase i).Leading → ∃ f, t.heap i = some f ∧ f.closed = 0
  stored : ∀ f, (t.phase i).Stored → t.heap i = some f → p.Ends i f.result
  flight : ∀ f, t.heap i = some f → (t.phase i).Leading ∨ (t.phase i = .returned f.result ∧ f.closed = 1 ∧ p.Ends i f.result)
  waiting : ∀ l, t.phase i = .waiting l → p.key l = p.key i ∧ (s.heap l).isSome
  returned : ∀ r, t.phase i = .returned r → p.direct i r ∨ p.cancelled i r ∨ ∃ l, p.key l = p.key i ∧ p.Ends l r
  holders : ∃ H : Finset ι, H.card = t.slots ∧ ∀ j, j ∈ H ↔ (t.phase j).Holding
  bound : t.slots ≤ p.capacity

theorem Inv.goes (inv : Inv p s) (goes : Goes p s i t) : Inv p t := by
  have flown (l : ι) (was : (s.heap l).isSome) : (t.heap l).isSome := by
    by_cases isOwn : l = i
    · exact isOwn ▸ goes.flown (isOwn ▸ was)
    · rwa [goes.heap l isOwn]
  constructor
  case holders => exact goes.holders
  case bound => exact goes.bound
  case mapped =>
    intro k l found
    by_cases isKey : k = p.key i
    · subst isKey
      by_cases isOwn : l = i
      · subst isOwn
        exact ⟨rfl, goes.own.mp found⟩
      · rw [goes.phase l isOwn]
        exact inv.mapped _ l ((goes.kept l isOwn).mp found)
    · rw [goes.flights k isKey] at found
      obtain ⟨same, leading⟩ := inv.mapped k l found
      rw [goes.phase l fun isOwn => isKey (isOwn ▸ same.symm)]
      exact ⟨same, leading⟩
  case leading =>
    intro j h
    by_cases isOwn : j = i
    · subst isOwn
      exact ⟨goes.own.mpr h, goes.stillOpen h⟩
    · rw [goes.phase j isOwn] at h
      obtain ⟨found, isOpen⟩ := inv.leading j h
      rw [goes.heap j isOwn]
      refine ⟨?_, isOpen⟩
      by_cases isKey : p.key j = p.key i
      · rw [isKey] at found ⊢
        exact (goes.kept j isOwn).mpr found
      · rwa [goes.flights _ isKey]
  case stored =>
    intro j f
    by_cases isOwn : j = i
    · exact isOwn ▸ goes.stored f
    · rw [goes.phase j isOwn, goes.heap j isOwn]
      exact inv.stored j f
  case flight =>
    intro j f
    by_cases isOwn : j = i
    · exact isOwn ▸ goes.flight f
    · rw [goes.phase j isOwn, goes.heap j isOwn]
      exact inv.flight j f
  case waiting =>
    intro j l h
    refine And.imp_right (flown l) ?_
    by_cases isOwn : j = i
    · subst isOwn
      exact goes.waiting l h
    · exact inv.waiting j l (goes.phase j isOwn ▸ h)
  case returned =>
    intro j r
    by_cases isOwn : j = i
    · exact isOwn ▸ goes.returned r
    · rw [goes.phase j isOwn]
      exact inv.returned j r

omit [DecidableEq K] in
/-- The holders when a call takes a slot, frees one, or does neither. -/
theorem holders_same (inv : Inv p s) {phase : Phase ι R} (same : phase.Holding ↔ (s.phase i).Holding) :
    ∃ H : Finset ι, H.card = s.slots ∧ ∀ j, j ∈ H ↔ ((s.go i phase).phase j).Holding := by
  obtain ⟨H, card, mem⟩ := inv.holders
  refine ⟨H, card, fun j => (mem j).trans ?_⟩
  by_cases isOwn : j = i
  · subst isOwn
    rw [State.go_self, same]
  · rw [s.go_of_ne phase isOwn]

omit [DecidableEq K] in
theorem holders_insert (inv : Inv p s) {phase : Phase ι R} (was : ¬ (s.phase i).Holding) (isHolding : phase.Holding) :
    ∃ H : Finset ι, H.card = s.slots + 1 ∧ ∀ j, j ∈ H ↔ ((s.go i phase).phase j).Holding := by
  obtain ⟨H, card, mem⟩ := inv.holders
  refine ⟨insert i H, by rw [Finset.card_insert_of_notMem fun h => was ((mem i).mp h), card], fun j => ?_⟩
  rw [Finset.mem_insert]
  by_cases isOwn : j = i
  · subst isOwn
    rw [State.go_self]
    exact ⟨fun _ => isHolding, fun _ => .inl rfl⟩
  · rw [s.go_of_ne phase isOwn, mem j]
    exact ⟨fun h => h.resolve_left isOwn, .inr⟩

omit [DecidableEq K] in
theorem holders_erase (inv : Inv p s) {phase : Phase ι R} (was : (s.phase i).Holding) (isNot : ¬ phase.Holding) :
    ∃ H : Finset ι, H.card = s.slots - 1 ∧ ∀ j, j ∈ H ↔ ((s.go i phase).phase j).Holding := by
  obtain ⟨H, card, mem⟩ := inv.holders
  refine ⟨H.erase i, by rw [Finset.card_erase_of_mem ((mem i).mpr was), card], fun j => ?_⟩
  rw [Finset.mem_erase]
  by_cases isOwn : j = i
  · subst isOwn
    rw [State.go_self]
    exact ⟨fun h => absurd rfl h.1, fun h => absurd h isNot⟩
  · rw [s.go_of_ne phase isOwn, mem j]
    exact ⟨fun h => h.2, fun h => ⟨isOwn, h⟩⟩

omit [DecidableEq ι] [DecidableEq K] in
/-- A call that has not begun has no flight. -/
theorem Inv.unflown (inv : Inv p s) (was : ¬ (s.phase i).Leading) (unreturned : ∀ r, s.phase i ≠ .returned r) : s.heap i = none := by
  cases isFlight : s.heap i with
  | none => rfl
  | some f =>
    rcases inv.flight i f isFlight with h | ⟨h, -⟩
    · exact absurd h was
    · exact absurd h (unreturned _)

omit [DecidableEq ι] [DecidableEq K] in
/-- A call that leads has the flight of its key. -/
theorem Inv.own (inv : Inv p s) : s.flights (p.key i) = some i ↔ (s.phase i).Leading :=
  ⟨fun found => (inv.mapped _ _ found).2, fun leading => (inv.leading i leading).1⟩

/-- A call that is not part of a flight goes on to a phase that is none either. -/
theorem Inv.outside (inv : Inv p s) {phase : Phase ι R} (was : ¬ (s.phase i).Leading) (unflown : s.heap i = none)
    (isNot : ¬ phase.Leading) (waits : ∀ l, phase = .waiting l → p.key l = p.key i ∧ (s.heap l).isSome)
    (returns : ∀ r, phase = .returned r → p.direct i r ∨ p.cancelled i r ∨ ∃ l, p.key l = p.key i ∧ p.Ends l r) :
    Inv p (s.go i phase) := by
  have own := s.go_self i phase
  have notLeading {q : Phase ι R} (h : ¬ q.Leading) :
      ¬ q.Holding ∧ ¬ q.Stored := by cases q <;> simp_all [Phase.Leading, Phase.Holding, Phase.Stored]
  have unheld : phase.Holding ↔ (s.phase i).Holding := iff_of_false (notLeading isNot).1 (notLeading was).1
  refine inv.goes (i := i) ⟨fun j ne => s.go_of_ne phase ne, fun _ _ => rfl, id, fun _ _ => rfl, fun _ _ => Iff.rfl, ?_, ?_, ?_,
    fun f h => absurd (unflown.symm.trans h) nofun, fun l h => waits l (own.symm.trans h), fun r h => returns r (own.symm.trans h),
    holders_same inv unheld, inv.bound⟩
  · rw [own]
    exact iff_of_false (fun found => was (inv.own.mp found)) isNot
  · rw [own]
    exact fun h => absurd h isNot
  · rw [own]
    exact fun f h => absurd h (notLeading isNot).2

/-- A leader goes on within its flight. -/
theorem Inv.inside (inv : Inv p s) {phase : Phase ι R} {f : Shared R} {slots : Nat} (was : (s.phase i).Leading) (isLeading : phase.Leading)
    (stillOpen : f.closed = 0) (stores : phase.Stored → p.Ends i f.result)
    (holders : ∃ H : Finset ι, H.card = slots ∧ ∀ j, j ∈ H ↔ ((s.go i phase).phase j).Holding) (bound : slots ≤ p.capacity) :
    Inv p { s.go i phase with slots := slots, heap := Function.update s.heap i (some f) } := by
  have own := s.go_self i phase
  have leads : ((s.go i phase).phase i).Leading := by rw [own]; exact isLeading
  have ownHeap : Function.update s.heap i (some f) i = some f := Function.update_self ..
  refine inv.goes (i := i) ⟨fun j ne => s.go_of_ne phase ne,
    fun j ne => Function.update_of_ne ne .., fun _ => Option.isSome_of_eq_some ownHeap,
    fun _ _ => rfl, fun _ _ => Iff.rfl, iff_of_true (inv.own.mpr was) leads, fun _ => ⟨f, ownHeap, stillOpen⟩, fun g h isFlight => ?_,
    fun _ _ => .inl leads, fun l h => ?_, fun r h => ?_, holders, bound⟩
  · cases ownHeap.symm.trans isFlight
    exact stores (own ▸ h)
  · rw [h] at leads
    exact leads.elim
  · rw [h] at leads
    exact leads.elim

/-- A call opens a flight for a key that has none. -/
theorem Inv.lead (inv : Inv p s) (idle : s.phase i = .idle) (free : s.flights (p.key i) = none) :
    Inv p { s.go i .queued with
      flights := Function.update s.flights (p.key i) (some i)
      heap := Function.update s.heap i (some ⟨p.zero, 0⟩) } := by
  have own := s.go_self i .queued
  have leads : ((s.go i .queued).phase i).Leading := by rw [own]; trivial
  have ownHeap : Function.update s.heap i (some ⟨p.zero, 0⟩) i = some ⟨p.zero, 0⟩ := Function.update_self ..
  have mine : Function.update s.flights (p.key i) (some i) (p.key i) = some i := Function.update_self ..
  refine inv.goes (i := i) ⟨fun j ne => s.go_of_ne _ ne, fun j ne => Function.update_of_ne ne .., fun _ => Option.isSome_of_eq_some ownHeap,
    fun k ne => Function.update_of_ne ne .., fun l ne => ?_, iff_of_true mine leads, fun _ => ⟨_, ownHeap, rfl⟩, fun f h => ?_,
    fun _ _ => .inl leads, fun l h => absurd (own.symm.trans h) nofun, fun r h => absurd (own.symm.trans h) nofun,
    holders_same inv (by rw [idle]; exact ⟨id, id⟩), inv.bound⟩
  · rw [free]
    exact iff_of_false (fun found => ne (Option.some.inj (mine.symm.trans found)).symm) nofun
  · rw [show (s.go i .queued).phase i = _ from own] at h
    exact h.elim

/-- A leader closes its flight. -/
theorem Inv.close (inv : Inv p s) {f : Shared R} (ending : s.phase i = .ending) (flown : s.heap i = some f) :
    Inv p { s.go i (.returned f.result) with
      flights := Function.update s.flights (p.key i) none, heap := Function.update s.heap i (some { f with closed := f.closed + 1 }) } := by
  have was : (s.phase i).Leading := by rw [ending]; trivial
  have own := s.go_self i (.returned f.result)
  have unled : ¬ ((s.go i (.returned f.result)).phase i).Leading := by rw [own]; exact id
  have ownHeap : Function.update s.heap i (some { f with closed := f.closed + 1 }) i = some { f with closed := f.closed + 1 } :=
    Function.update_self ..
  have mine : Function.update s.flights (p.key i) none (p.key i) = none := Function.update_self ..
  obtain ⟨flies, g, isMine, isOpen⟩ := inv.leading i was
  cases flown.symm.trans isMine
  have ends : p.Ends i f.result := inv.stored i f (by rw [ending]; trivial) flown
  refine inv.goes (i := i) ⟨fun j ne => s.go_of_ne _ ne, fun j ne => Function.update_of_ne ne .., fun _ => Option.isSome_of_eq_some ownHeap,
    fun k ne => Function.update_of_ne ne .., fun l ne => ?_, iff_of_false (fun found => absurd (mine.symm.trans found) nofun) unled,
    fun h => absurd h unled, fun g h => ?_, fun g isFlight => ?_, fun l h => absurd (own.symm.trans h) nofun, fun r h => ?_,
    holders_same inv (by rw [ending]; exact ⟨id, id⟩), inv.bound⟩
  · exact iff_of_false (fun found => absurd (mine.symm.trans found) nofun) fun found => ne (Option.some.inj (found.symm.trans flies))
  · rw [show (s.go i _).phase i = _ from own] at h
    exact h.elim
  · cases ownHeap.symm.trans isFlight
    exact .inr ⟨own, congrArg (· + 1) isOpen, ends⟩
  · obtain rfl := Phase.returned.inj (own.symm.trans h)
    exact .inr (.inr ⟨i, rfl, ends⟩)

/-! ## Steps and runs -/

theorem Inv.step {l : ι × Act R} (inv : Inv p s) (allowed : p.Allowed s l) (stepped : p.next s l = some t) : Inv p t := by
  obtain ⟨i, act⟩ := l
  cases act with
  | skip r =>
    simp only [Protocol.next] at stepped
    split at stepped
    · rename_i idle
      cases stepped
      have was : ¬ (s.phase i).Leading := by rw [idle]; exact id
      exact inv.outside was (inv.unflown was fun r => by rw [idle]; nofun) id nofun fun r' h => .inl (Phase.returned.inj h ▸ allowed)
    · cases stepped
  | enter =>
    simp only [Protocol.next] at stepped
    split at stepped
    · rename_i idle
      have was : ¬ (s.phase i).Leading := by rw [idle]; exact id
      split at stepped
      · rename_i l found
        cases stepped
        refine inv.outside was (inv.unflown was fun r => by rw [idle]; nofun) id (fun l' h => ?_) nofun
        obtain rfl := Phase.waiting.inj h
        obtain ⟨same, leading⟩ := inv.mapped _ _ found
        obtain ⟨-, f, isFlight, -⟩ := inv.leading l leading
        exact ⟨same, Option.isSome_of_eq_some isFlight⟩
      · rename_i free
        cases stepped
        exact inv.lead idle free
    · cases stepped
  | acquire =>
    simp only [Protocol.next] at stepped
    split at stepped
    · rename_i queued
      split at stepped
      · rename_i room
        cases stepped
        have was : (s.phase i).Leading := by rw [queued]; trivial
        obtain ⟨-, f, isFlight, isOpen⟩ := inv.leading i was
        have inside : Inv p { s.go i .working with slots := s.slots + 1, heap := Function.update s.heap i (some f) } :=
          inv.inside was trivial isOpen nofun (holders_insert inv (by rw [queued]; exact id) trivial) room
        rw [← isFlight, Function.update_eq_self] at inside
        exact inside
      · cases stepped
    · cases stepped
  | abandon r =>
    simp only [Protocol.next] at stepped
    split at stepped
    · rename_i queued
      cases stepped
      have was : (s.phase i).Leading := by rw [queued]; trivial
      obtain ⟨-, f, isFlight, isOpen⟩ := inv.leading i was
      rw [isFlight, Option.map_some]
      exact inv.inside was trivial isOpen (fun _ => .inr allowed) (holders_same inv (by rw [queued]; exact ⟨id, id⟩)) inv.bound
    · cases stepped
  | finish r =>
    simp only [Protocol.next] at stepped
    split at stepped
    · rename_i working
      cases stepped
      have was : (s.phase i).Leading := by rw [working]; trivial
      obtain ⟨-, f, isFlight, isOpen⟩ := inv.leading i was
      rw [isFlight, Option.map_some]
      exact inv.inside was trivial isOpen (fun _ => .inl allowed) (holders_same inv (by rw [working]; exact ⟨id, id⟩)) inv.bound
    · cases stepped
  | release =>
    simp only [Protocol.next] at stepped
    split at stepped
    · rename_i worked
      cases stepped
      have was : (s.phase i).Leading := by rw [worked]; trivial
      obtain ⟨-, f, isFlight, isOpen⟩ := inv.leading i was
      have stored := inv.stored i f (by rw [worked]; trivial) isFlight
      have inside : Inv p { s.go i .ending with slots := s.slots - 1, heap := Function.update s.heap i (some f) } :=
        inv.inside was trivial isOpen (fun _ => stored) (holders_erase inv (by rw [worked]; trivial) id) ((Nat.sub_le _ 1).trans inv.bound)
      rw [← isFlight, Function.update_eq_self] at inside
      exact inside
    · cases stepped
  | close =>
    simp only [Protocol.next] at stepped
    split at stepped
    · rename_i f ending flown
      cases stepped
      exact inv.close ending flown
    · cases stepped
  | receive =>
    simp only [Protocol.next] at stepped
    split at stepped
    · rename_i l waits
      have was : ¬ (s.phase i).Leading := by rw [waits]; exact id
      split at stepped
      · rename_i f isFlight
        split at stepped
        · cases stepped
        · rename_i closed
          cases stepped
          refine inv.outside was (inv.unflown was fun r => by rw [waits]; nofun) id nofun fun r h =>
            .inr (.inr ⟨l, (inv.waiting i l waits).1, ?_⟩)
          obtain rfl := Phase.returned.inj h
          rcases inv.flight l f isFlight with leading | ⟨-, -, ends⟩
          · obtain ⟨-, g, isFlight', isOpen⟩ := inv.leading l leading
            cases isFlight.symm.trans isFlight'
            exact absurd isOpen closed
          · exact ends
      · cases stepped
    · cases stepped
  | leave r =>
    simp only [Protocol.next] at stepped
    split at stepped
    · rename_i l waits
      cases stepped
      have was : ¬ (s.phase i).Leading := by rw [waits]; exact id
      exact inv.outside was (inv.unflown was fun r => by rw [waits]; nofun) id nofun fun r' h =>
        .inr (.inl (Phase.returned.inj h ▸ allowed))
    · cases stepped

theorem Protocol.Reaches.inv (reached : p.Reaches s) : Inv p s :=
  reached.invariant (Inv p) inv_start fun _ _ _ inv allowed stepped => inv.step allowed stepped

omit [DecidableEq ι] [DecidableEq K] in
/-- At most one call leads a flight for a key. -/
theorem Inv.one_leader (inv : Inv p s) {j : ι} (first : (s.phase i).Leading) (second : (s.phase j).Leading) (same : p.key i = p.key j) :
    i = j := by
  have mine := (inv.leading i first).1
  have other := (inv.leading j second).1
  exact Option.some.inj (mine.symm.trans (same ▸ other))

omit [DecidableEq ι] [DecidableEq K] in
/-- No more calls work at a time than there are slots. -/
theorem Inv.workers_le (inv : Inv p s) {workers : Finset ι} (work : ∀ i ∈ workers, (s.phase i).Holding) : workers.card ≤ p.capacity := by
  obtain ⟨H, card, mem⟩ := inv.holders
  have subset : workers ⊆ H := fun i h => (mem i).mpr (work i h)
  exact (Finset.card_le_card subset).trans (card ▸ inv.bound)

end

end Sim.Flight

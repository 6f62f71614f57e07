import Mathlib.Data.List.AList
import MinimaxProxy.Sim.Runs

/-!
# The login throttle

`httpapi/manager/handler.go`: `createSession` reads the clock, asks `beginLoginAttempt` for
admission, handles the request however long that takes, and hands the time it read to
`finishLoginAttempt`. Both take the mutex, so a run interleaves them as single steps of any
number of requests. Times are nanoseconds.
-/

namespace MinimaxProxy.Manager

def loginFailureLimit : Nat := 5
def loginBlockPeriod : Int := 60000000000
def loginSourceLimit : Nat := 4096
def failureCleanupGap : Int := 60000000000

/-- `loginFailure`; `none` is the zero time. -/
structure LoginFailure where
  count : Nat := 0
  inflight : Nat := 0
  blockedUntil : Option Int := none
  lastSeen : Int
  deriving DecidableEq

abbrev Failures := AList fun _ : String => LoginFailure

/-- The records that are kept. -/
def Failures.filter (p : LoginFailure → Bool) (m : Failures) : Failures :=
  ⟨m.entries.filter fun e => p e.2, m.nodupKeys.sublist List.filter_sublist⟩

theorem Failures.lookup_filter (p : LoginFailure → Bool) (m : Failures) (source : String) :
    AList.lookup source (m.filter p) = (m.lookup source).filter p := by
  ext f
  rw [Option.filter_eq_some_iff]
  show f ∈ AList.lookup source (m.filter p) ↔ f ∈ m.lookup source ∧ p f = true
  rw [AList.mem_lookup_iff, AList.mem_lookup_iff]
  exact List.mem_filter

/-! ## The handler -/

/-- What the throttle keeps under its mutex. -/
structure Throttle where
  failures : Failures := ∅
  nextFailureCleanup : Option Int := none

/-- The block of the record is over. -/
def LoginFailure.unblocked (f : LoginFailure) (now : Int) : Bool := f.blockedUntil.any fun expiry => expiry ≤ now

theorem LoginFailure.unblocked_iff {f : LoginFailure} {now : Int} :
    f.unblocked now = true ↔ ∃ expiry, f.blockedUntil = some expiry ∧ expiry ≤ now := by
  cases h : f.blockedUntil <;> simp [LoginFailure.unblocked, h]

/-- `cleanupFailuresIfDueLocked` (handler.go:430). -/
def cleanupFailuresIfDueLocked (h : Throttle) (now : Int) : Throttle :=
  if h.nextFailureCleanup.any fun due => now < due then h
  else
    { failures := h.failures.filter fun f =>
        !(f.inflight == 0 && (f.unblocked now || loginBlockPeriod ≤ now - f.lastSeen))
      nextFailureCleanup := some (now + failureCleanupGap) }

/-- The records that `beginLoginAttempt` drops first: those of a cleanup, and its own when
its block is over. -/
def expire (h : Throttle) (source : String) (now : Int) : Throttle :=
  let h := cleanupFailuresIfDueLocked h now
  match h.failures.lookup source with
  | some f => if f.inflight == 0 && f.unblocked now then { h with failures := h.failures.erase source } else h
  | none => h

/-- `beginLoginAttempt` (handler.go:381). -/
def beginLoginAttempt (h : Throttle) (source : String) (now : Int) : Bool × Throttle :=
  let h := expire h source now
  let known := h.failures.lookup source
  if known.isNone && loginSourceLimit ≤ h.failures.keys.length then (false, h)
  else
    let f := known.getD { lastSeen := now }
    if loginFailureLimit ≤ f.count + f.inflight then (false, h)
    else (true, { h with failures := h.failures.insert source { f with inflight := f.inflight + 1, lastSeen := now } })

/-- `finishLoginAttempt` (handler.go:403); `now` is the time at which the attempt began. -/
def finishLoginAttempt (h : Throttle) (source : String) (now : Int) (succeeded : Bool) : Throttle :=
  match h.failures.lookup source with
  | none => h
  | some f =>
    let f := { f with inflight := f.inflight - 1, lastSeen := now }
    if succeeded then
      if f.inflight = 0 then { h with failures := h.failures.erase source }
      else { h with failures := h.failures.insert source { f with count := 0, blockedUntil := none } }
    else
      let f := { f with count := f.count + 1 }
      let f := if loginFailureLimit ≤ f.count then { f with blockedUntil := some (now + loginBlockPeriod) } else f
      { h with failures := h.failures.insert source f }

/-- What the handler is set up with. -/
structure Admin where
  username : String
  password : String
  sha256 : String → String
  /-- `net.SplitHostPort`. -/
  splitHostPort : String → Option (String × String)

/-- `remoteSource` (handler.go:442). -/
def remoteSource (admin : Admin) (remoteAddr : String) : String := ((admin.splitHostPort remoteAddr).map (·.1)).getD remoteAddr

/-- A login request as the handler sees it: the media type, the body up to the limit and what
`decodeLoginRequest` makes of it, and the random bytes of the token. -/
structure LoginRequest where
  mediaType : Option String
  body : Option String
  decoded : String → Option (String × String)
  token : Option String

/-- The answer. -/
structure Response where
  status : Nat
  errorType : String := ""
  message : String := ""
  deriving DecidableEq

/-- The part of `createSession` (handler.go:272) between admission and the end. -/
def createSession (admin : Admin) (r : LoginRequest) : Response × Bool :=
  if r.mediaType ≠ some "application/json" then (⟨400, "bad_request_error", "Content-Type 必须为 application/json"⟩, false)
  else match r.body.bind r.decoded with
    | none => (⟨400, "bad_request_error", "请求 JSON 无效"⟩, false)
    | some (username, password) =>
      if admin.sha256 username ≠ admin.sha256 admin.username ∨ admin.sha256 password ≠ admin.sha256 admin.password then
        (⟨401, "authentication_error", "账号或密码错误"⟩, false)
      else match r.token with
        | none => (⟨500, "server_error", "服务内部错误"⟩, false)
        | some _ => (⟨204, "", ""⟩, true)

/-! ## The system -/

/-- A request, with the time it read. -/
structure Attempt where
  source : String
  began : Int
  deriving DecidableEq

structure State where
  throttle : Throttle := {}
  clock : Int
  /-- Requests that have read the clock and wait for the mutex. -/
  arrived : List Attempt := []
  /-- Admitted requests that have not finished. -/
  inflight : List Attempt := []
  /-- When the failures that the record of a source counts began, the latest to be recorded first. -/
  failed : String → List Int := fun _ => []

inductive Event
  | tick (clock : Int)
  | arrive (remoteAddr : String)
  | begin (a : Attempt)
  | finish (a : Attempt) (r : LoginRequest)

/-- The failures that are still counted once the records of `h` are all there are. -/
def counted (h : Throttle) (failed : String → List Int) (source : String) : List Int :=
  if (h.failures.lookup source).isSome then failed source else []

/-- The state after the event, if it can happen. -/
def Event.next (admin : Admin) (s : State) : Event → Option State
  | .tick clock => if s.clock ≤ clock then some { s with clock := clock } else none
  | .arrive remoteAddr => some { s with arrived := ⟨remoteSource admin remoteAddr, s.clock⟩ :: s.arrived }
  | .begin a =>
    if a ∈ s.arrived then
      let (admitted, h) := beginLoginAttempt s.throttle a.source a.began
      some { s with
        throttle := h
        arrived := s.arrived.erase a
        inflight := if admitted then a :: s.inflight else s.inflight
        failed := counted (expire s.throttle a.source a.began) s.failed }
    else none
  | .finish a r =>
    if a ∈ s.inflight then
      let succeeded := (createSession admin r).2
      some { s with
        throttle := finishLoginAttempt s.throttle a.source a.began succeeded
        inflight := s.inflight.erase a
        failed := Function.update s.failed a.source (if succeeded then [] else a.began :: s.failed a.source) }
    else none

/-- A step of the system. -/
def Step (admin : Admin) (s : State) (e : Event) (t : State) : Prop := e.next admin s = some t

/-- `t` is reached from `s` by events that meet `ok`. -/
def Reaches (admin : Admin) (ok : State → Event → Prop) : State → State → Prop := Sim.Run (Step admin) ok

/-- A handler before the first request. -/
def started (clock : Int) : State := { clock := clock }

/-- What the throttle is for. -/
structure Throttled (s : State) : Prop where
  /-- A source with so many failures is not admitted before the period has passed since the
  latest of them began. -/
  blocked : ∀ a ∈ s.arrived, loginFailureLimit ≤ (s.failed a.source).length →
    (beginLoginAttempt s.throttle a.source a.began).1 = true → ∀ began ∈ s.failed a.source, began + loginBlockPeriod ≤ s.clock
  /-- Nor is a failure forgotten before. -/
  forgotten : ∀ a ∈ s.arrived, ∀ source, ((expire s.throttle a.source a.began).failures.lookup source).isNone = true →
    ∀ began ∈ s.failed source, began + loginBlockPeriod ≤ s.clock

/-- A failed attempt is recorded after those that began before it. -/
def InOrder (admin : Admin) (s : State) : Event → Prop
  | .finish a r => (createSession admin r).2 = false → ∀ began ∈ s.failed a.source, began ≤ a.began
  | _ => True

/-! ## What is dropped -/

/-- Why a record may be dropped. -/
structure Dropped (f : LoginFailure) (now : Int) : Prop where
  idle : f.inflight = 0
  old : f.unblocked now = true ∨ loginBlockPeriod ≤ now - f.lastSeen

/-- A record stays as it is or is dropped. -/
def KeptOrDropped (now : Int) (before after : Option LoginFailure) : Prop :=
  after = before ∨ after = none ∧ ∃ f, before = some f ∧ Dropped f now

section
variable {h : Throttle} {now : Int}

theorem cleanup_lookup (h : Throttle) (now : Int) (source : String) :
    KeptOrDropped now (h.failures.lookup source) ((cleanupFailuresIfDueLocked h now).failures.lookup source) := by
  unfold cleanupFailuresIfDueLocked
  split
  · exact .inl rfl
  · show KeptOrDropped now _ (AList.lookup source (Failures.filter _ h.failures))
    rw [Failures.lookup_filter]
    cases found : h.failures.lookup source with
    | none => exact .inl rfl
    | some f =>
      rw [Option.filter_some]
      split
      · exact .inl rfl
      · rename_i stale
        simp only [Bool.not_eq_true', Bool.not_eq_false, Bool.and_eq_true, beq_iff_eq, Bool.or_eq_true, decide_eq_true_eq] at stale
        exact .inr ⟨rfl, f, rfl, stale.1, stale.2⟩

theorem expire_lookup {own : String} {source : String} :
    KeptOrDropped now (h.failures.lookup source) ((expire h own now).failures.lookup source) := by
  have cleaned := cleanup_lookup h now source
  unfold expire
  dsimp only
  generalize cleanupFailuresIfDueLocked h now = h' at cleaned ⊢
  split
  · rename_i f found
    split
    · rename_i ended
      simp only [Bool.and_eq_true, beq_iff_eq] at ended
      by_cases same : source = own
      · subst same
        rcases cleaned with kept | ⟨gone, -⟩
        · exact .inr ⟨AList.lookup_erase .., f, kept ▸ found, ended.1, .inl ended.2⟩
        · rw [gone] at found
          cases found
      · show KeptOrDropped now _ (AList.lookup source (h'.failures.erase own))
        rwa [AList.lookup_erase_ne same]
    · exact cleaned
  · exact cleaned

end

/-! ## The invariant -/

/-- A record counts the failures `failed` and as many attempts in flight as there are. -/
structure Counts (failed : List Int) (flying : Nat) (f : LoginFailure) : Prop where
  count : f.count = failed.length
  inflight : f.inflight = flying
  room : f.count + f.inflight ≤ loginFailureLimit
  free : f.count < loginFailureLimit → f.blockedUntil = none
  blocked : ∀ expiry, f.blockedUntil = some expiry → ∀ began ∈ failed, began + loginBlockPeriod ≤ expiry
  seen : f.inflight = 0 → ∀ began ∈ failed, began ≤ f.lastSeen

/-- Without a record there is nothing to count. -/
def Knows (failed : List Int) (flying : Nat) : Option LoginFailure → Prop
  | some f => Counts failed flying f
  | none => failed = [] ∧ flying = 0

/-- How many attempts of a source are in flight. -/
def State.flying (s : State) (source : String) : Nat := s.inflight.countP (·.source == source)

structure Inv (s : State) : Prop where
  past : ∀ a ∈ s.arrived, a.began ≤ s.clock
  knows : ∀ source, Knows (s.failed source) (s.flying source) (s.throttle.failures.lookup source)

theorem Inv.started (clock : Int) : Inv (started clock) :=
  ⟨nofun, fun _ => ⟨rfl, rfl⟩⟩

section
variable {s : State} {source : String} {f : LoginFailure} {now : Int}

theorem Counts.old {failed : List Int} {flying : Nat} (counts : Counts failed flying f) (dropped : Dropped f now) :
    ∀ began ∈ failed, began + loginBlockPeriod ≤ now := by
  intro began failed
  rcases dropped.old with unblocked | unseen
  · obtain ⟨expiry, isBlocked, ended⟩ := LoginFailure.unblocked_iff.mp unblocked
    have late := counts.blocked expiry isBlocked began failed
    omega
  · have seen := counts.seen dropped.idle began failed
    omega

/-- A source without a record has nothing that is less than a period old. -/
theorem Inv.old (inv : Inv s) {own : String} (gone : (expire s.throttle own now).failures.lookup source = none) :
    (∀ began ∈ s.failed source, began + loginBlockPeriod ≤ now) ∧ s.flying source = 0 := by
  have known := inv.knows source
  rcases expire_lookup with kept | ⟨-, f, found, dropped⟩
  · rw [gone] at kept
    rw [← kept] at known
    exact ⟨by rw [known.1]; exact nofun, known.2⟩
  · rw [found] at known
    exact ⟨known.old dropped, known.inflight ▸ dropped.idle⟩

theorem Inv.throttled (inv : Inv s) : Throttled s where
  blocked a arrived full admitted := by
    have past := inv.past a arrived
    have known := inv.knows a.source
    -- The record is full, so the attempt is only admitted when it is gone.
    cases found : (expire s.throttle a.source a.began).failures.lookup a.source with
    | none =>
      intro began failed
      exact Int.le_trans ((inv.old found).1 began failed) past
    | some f =>
      rcases expire_lookup with kept | ⟨gone, -⟩
      · rw [← kept, found] at known
        have refused : loginFailureLimit ≤ f.count + f.inflight := by
          have := known.count
          omega
        simp [beginLoginAttempt, found, refused] at admitted
      · rw [gone] at found
        cases found
  forgotten a arrived source gone began failed :=
    Int.le_trans ((inv.old (Option.isNone_iff_eq_none.mp gone)).1 began failed) (inv.past a arrived)

/-! ## Steps -/

theorem begin_cases {h : Throttle} :
    beginLoginAttempt h source now = (false, expire h source now) ∨
      ∃ f, f = ((expire h source now).failures.lookup source).getD { lastSeen := now } ∧ f.count + f.inflight < loginFailureLimit ∧
        beginLoginAttempt h source now = (true, { expire h source now with
          failures := (expire h source now).failures.insert source { f with inflight := f.inflight + 1, lastSeen := now } }) := by
  unfold beginLoginAttempt
  dsimp only
  split
  · exact .inl rfl
  · split
    · exact .inl rfl
    · rename_i room
      exact .inr ⟨_, rfl, Nat.not_le.mp room, rfl⟩

/-- The records that `expire` leaves still count what they counted. -/
theorem Inv.expired (inv : Inv s) (own : String) (now : Int) (source : String) :
    Knows (counted (expire s.throttle own now) s.failed source) (s.flying source)
      ((expire s.throttle own now).failures.lookup source) := by
  have known := inv.knows source
  cases found : (expire s.throttle own now).failures.lookup source with
  | none => exact ⟨by simp [counted, found], (inv.old found).2⟩
  | some f =>
    rw [show counted (expire s.throttle own now) s.failed source = s.failed source by simp [counted, found]]
    rcases expire_lookup with kept | ⟨gone, -⟩
    · rwa [← kept, found] at known
    · rw [gone] at found
      cases found

theorem Knows.admitted {failed : List Int} {flying : Nat} {known : Option LoginFailure} (knows : Knows failed flying known)
    (isRecord : f = known.getD { lastSeen := now }) (room : f.count + f.inflight < loginFailureLimit) :
    Counts failed (flying + 1) { f with inflight := f.inflight + 1, lastSeen := now } := by
  have counts : f.count = failed.length ∧ f.inflight = flying ∧ f.blockedUntil = none := by
    cases known with
    | none =>
      obtain ⟨rfl, rfl⟩ := knows
      subst isRecord
      exact ⟨rfl, rfl, rfl⟩
    | some g =>
      obtain rfl : f = g := isRecord
      exact ⟨knows.count, knows.inflight, knows.free (by omega)⟩
  obtain ⟨count, inflight, unblocked⟩ := counts
  refine ⟨count, congrArg (· + 1) inflight, ?_, fun _ => unblocked, fun expiry isBlocked => ?_, fun none => ?_⟩
  · show f.count + (f.inflight + 1) ≤ loginFailureLimit
    omega
  · rw [show f.blockedUntil = some expiry from isBlocked] at unblocked
    cases unblocked
  · cases none

theorem Inv.begin (inv : Inv s) (a : Attempt) (source : String) :
    Knows (counted (expire s.throttle a.source a.began) s.failed source)
      ((if (beginLoginAttempt s.throttle a.source a.began).1 then a :: s.inflight else s.inflight).countP (·.source == source))
      ((beginLoginAttempt s.throttle a.source a.began).2.failures.lookup source) := by
  have expired := inv.expired a.source a.began source
  rcases begin_cases with refused | ⟨f, isRecord, room, admitted⟩
  · rw [refused]
    exact expired
  · rw [admitted]
    by_cases same : source = a.source
    · subst same
      simp only [AList.lookup_insert, if_true, List.countP_cons, beq_self_eq_true]
      exact expired.admitted isRecord room
    · simp only [AList.lookup_insert_ne same, if_true, List.countP_cons]
      simpa [State.flying, Ne.symm same] using expired

/-- An attempt in flight has a record. -/
theorem Inv.record (inv : Inv s) {a : Attempt} (flying : a ∈ s.inflight) :
    ∃ f, s.throttle.failures.lookup a.source = some f ∧ Counts (s.failed a.source) (s.flying a.source) f ∧ 0 < f.inflight := by
  have known := inv.knows a.source
  have counted : 0 < s.flying a.source := List.countP_pos_iff.mpr ⟨a, flying, by simp⟩
  cases found : s.throttle.failures.lookup a.source with
  | none =>
    rw [found] at known
    exact absurd known.2 (Nat.ne_of_gt counted)
  | some f =>
    rw [found] at known
    exact ⟨f, rfl, known, known.inflight ▸ counted⟩

theorem Counts.fail {failed : List Int} {flying : Nat} (counts : Counts failed flying f) (inFlight : 0 < f.inflight)
    (ordered : ∀ began ∈ failed, began ≤ now) :
    Counts (now :: failed) (flying - 1)
      (if loginFailureLimit ≤ f.count + 1 then
        { f with inflight := f.inflight - 1, lastSeen := now, count := f.count + 1, blockedUntil := some (now + loginBlockPeriod) }
      else { f with inflight := f.inflight - 1, lastSeen := now, count := f.count + 1 }) := by
  have room := counts.room
  have unblocked := counts.free (by omega)
  have seen : ∀ began ∈ now :: failed, began ≤ now := by
    intro began mem
    rcases List.mem_cons.mp mem with rfl | mem
    · exact Int.le_refl _
    · exact ordered began mem
  have fewer : f.count + 1 + (f.inflight - 1) ≤ loginFailureLimit := by omega
  have count : f.count + 1 = (now :: failed).length := congrArg (· + 1) counts.count
  have inflight : f.inflight - 1 = flying - 1 := congrArg (· - 1) counts.inflight
  split
  · rename_i full
    refine ⟨count, inflight, fewer, fun free => absurd full (Nat.not_le.mpr free), fun expiry isBlocked began mem => ?_, fun _ => seen⟩
    cases isBlocked
    exact Int.add_le_add_right (seen began mem) _
  · refine ⟨count, inflight, fewer, fun _ => unblocked, fun expiry isBlocked => ?_, fun _ => seen⟩
    rw [show f.blockedUntil = some expiry from isBlocked] at unblocked
    cases unblocked

theorem Inv.finish (inv : Inv s) {a : Attempt} (flying : a ∈ s.inflight) {succeeded : Bool}
    (ordered : succeeded = false → ∀ began ∈ s.failed a.source, began ≤ a.began) (source : String) :
    Knows (Function.update s.failed a.source (if succeeded then [] else a.began :: s.failed a.source) source)
      ((s.inflight.erase a).countP (·.source == source))
      ((finishLoginAttempt s.throttle a.source a.began succeeded).failures.lookup source) := by
  obtain ⟨f, found, counts, inFlight⟩ := inv.record flying
  have left : s.flying source = ((a :: s.inflight.erase a).countP (·.source == source)) :=
    (List.perm_cons_erase flying).countP_eq _
  by_cases same : source = a.source
  · subst same
    have left : (s.inflight.erase a).countP (·.source == a.source) = s.flying a.source - 1 := by simp [left]
    rw [Function.update_self, left]
    simp only [finishLoginAttempt, found]
    cases succeeded with
    | true =>
      have room := counts.room
      have inflight := counts.inflight
      simp only [if_true]
      split
      · rename_i last
        rw [AList.lookup_erase]
        exact ⟨rfl, by omega⟩
      · rw [AList.lookup_insert]
        refine ⟨rfl, congrArg (· - 1) inflight, ?_, fun _ => rfl, nofun, fun _ => nofun⟩
        show 0 + (f.inflight - 1) ≤ loginFailureLimit
        omega
    | false =>
      simp only [Bool.false_eq_true, if_false, AList.lookup_insert]
      exact counts.fail inFlight (ordered rfl)
  · have left : (s.inflight.erase a).countP (·.source == source) = s.flying source := by simp [left, Ne.symm same]
    rw [Function.update_of_ne same, left]
    have known := inv.knows source
    simp only [finishLoginAttempt, found]
    split
    · split
      · rwa [AList.lookup_erase_ne same]
      · rwa [AList.lookup_insert_ne same]
    · rwa [AList.lookup_insert_ne same]

theorem Inv.step {admin : Admin} {t : State} {e : Event} (inv : Inv s) (ordered : InOrder admin s e) (step : Step admin s e t) :
    Inv t := by
  cases e with
  | tick clock =>
    simp only [Step, Event.next, Option.ite_none_right_eq_some, Option.some.injEq] at step
    obtain ⟨later, rfl⟩ := step
    exact ⟨fun a arrived => Int.le_trans (inv.past a arrived) later, inv.knows⟩
  | arrive remoteAddr =>
    cases step
    refine ⟨fun a arrived => ?_, inv.knows⟩
    rcases List.mem_cons.mp arrived with rfl | arrived
    · exact Int.le_refl _
    · exact inv.past a arrived
  | begin a =>
    simp only [Step, Event.next, Option.ite_none_right_eq_some, Option.some.injEq] at step
    obtain ⟨-, rfl⟩ := step
    exact ⟨fun b arrived => inv.past b (List.mem_of_mem_erase arrived), inv.begin a⟩
  | finish a r =>
    simp only [Step, Event.next, Option.ite_none_right_eq_some, Option.some.injEq] at step
    obtain ⟨flying, rfl⟩ := step
    exact ⟨inv.past, inv.finish flying ordered⟩

end

/-! ## Given runs -/

instance (admin : Admin) (s : State) (e : Event) : Decidable (InOrder admin s e) := by
  cases e <;> dsimp only [InOrder] <;> infer_instance

/-- An administrator, with what the library gives for the requests below, which have the wrong
password `guess`. -/
def sampleAdmin : Admin where
  username := "admin"
  password := "secret"
  sha256 s :=
    if s = "admin" then "8c6976e5b5410415bde908bd4dee15dfb167a9c873fc4bb8a81f6f2ab448a918"
    else if s = "secret" then "2bb80d537b1da3e38bd30361aa855686bde0eacd7162fef6a25fe97bf527a25b"
    else "f1abe1b083d12d181ae136cfc75b8d18a8ecb43ac4e9d1a36d6a9c75b6016b61"
  splitHostPort _ := some ("10.0.0.1", "5000")

def wrongPassword : LoginRequest where
  mediaType := some "application/json"
  body := some "\x7b\"username\":\"admin\",\"password\":\"guess\"\x7d"
  decoded _ := some ("admin", "guess")
  token := some "token"

/-- Five attempts of one source, the first at time 0 and the others 59 seconds later. -/
def fiveAttempts : List Event :=
  [.arrive "10.0.0.1:5000", .begin ⟨"10.0.0.1", 0⟩, .tick 59000000000] ++
    (List.replicate 4 [.arrive "10.0.0.1:5000", .begin ⟨"10.0.0.1", 59000000000⟩]).flatten

/-! ## The result -/

/-- Whatever the requests do, as long as failures are recorded in the order in which the
attempts began, a source that has used up its failures stays out for the whole period. -/
theorem login_throttled (admin : Admin) (clock : Int) {s : State} (run : Reaches admin (InOrder admin) (started clock) s) : Throttled s :=
  (run.invariant Inv (.started clock) fun _ _ _ inv ordered step => inv.step ordered step).throttled

/-- The five attempts fail in the order in which they began, and then there is a sixth request. -/
theorem login_throttled_in_order :
    let events : List Event := fiveAttempts ++ [.finish ⟨"10.0.0.1", 0⟩ wrongPassword] ++
      List.replicate 4 (.finish ⟨"10.0.0.1", 59000000000⟩ wrongPassword) ++ [.tick 60000000000, .arrive "10.0.0.1:5000"]
    let s := Sim.after (Event.next sampleAdmin) (started 0) events
    (⟨"10.0.0.1", 60000000000⟩ ∈ s.arrived ∧ loginFailureLimit ≤ (s.failed "10.0.0.1").length) ∧ Throttled s :=
  ⟨by decide +kernel, login_throttled sampleAdmin 0 (Sim.run_after (fun _ _ _ => id) (by decide +kernel))⟩

/-- The attempt that began first fails last, and the record is dropped a minute after it
began: a second after the four others. -/
theorem slow_attempt_ends_block :
    let events : List Event := fiveAttempts ++ List.replicate 4 (.finish ⟨"10.0.0.1", 59000000000⟩ wrongPassword) ++
      [.finish ⟨"10.0.0.1", 0⟩ wrongPassword, .tick 60000000000, .arrive "10.0.0.1:5000"]
    let s := Sim.after (Event.next sampleAdmin) (started 0) events
    Reaches sampleAdmin (fun _ _ => True) (started 0) s ∧ ⟨"10.0.0.1", 60000000000⟩ ∈ s.arrived ∧
      loginFailureLimit ≤ (s.failed "10.0.0.1").length ∧
      (beginLoginAttempt s.throttle "10.0.0.1" 60000000000).1 = true ∧
      59000000000 ∈ s.failed "10.0.0.1" ∧ s.clock < 59000000000 + loginBlockPeriod := by
  refine ⟨Sim.run_after (fun _ _ _ => id) (by decide +kernel), ?_⟩
  decide +kernel

end MinimaxProxy.Manager

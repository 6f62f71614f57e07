import MinimaxProxy.Store.Basic
import MinimaxProxy.Text.Strings

/-!
# Opening a result file

`artifact/service.go`: `Open` looks the artifact up, checks the right to read it and the
limits, asks the node for the bytes of the `Range` header and checks what it answers. The
signature is a parameter; the answer of the node is any at all.
-/

namespace MinimaxProxy.Download
open Sql Store Text

/-- `sqlite.ArtifactAccess` (artifact_location_store.go:134). -/
structure ArtifactAccess where
  artifact : Artifact
  location : Location
  apiKeyID : String
  taskStatus : TaskStatus
  taskDeletedAt : Int

/-- `GetArtifactAccess` (artifact_location_store.go:142). -/
def getArtifactAccess (artifactID : String) (db : Database) : Option ArtifactAccess := do
  let a ← db.artifacts.find? (·.id == artifactID)
  let t ← db.tasks.find? fun t => t.taskID == a.taskID && t.resultArtifactID == some a.id
  let l ← db.locations.find? fun l => l.artifactID == a.id && l.state == .active && l.isPrimary
  pure { artifact := a, location := l, apiKeyID := t.apiKeyID, taskStatus := t.status, taskDeletedAt := t.deletedAt.getD 0 }

inductive OpenError
  | notFound | unauthorized | expired | unavailable | integrity | invalidRange | busy
deriving DecidableEq

/-- `Service`: the signature of a download and how long one is valid, in seconds. -/
structure Service where
  signature : (method artifactID ownerID : String) → Int → String
  ttl : Int

structure Authorization where
  bearerOwner : String := ""
  expires : Int := 0
  signature : String := ""
  method : String := ""

/-- `authorize` (service.go:364). -/
def authorize (s : Service) (now : Int) (ownerID artifactID : String) (auth : Authorization) : Except OpenError Unit :=
  if auth.bearerOwner ≠ "" then
    if auth.bearerOwner = ownerID then .ok () else .error .unauthorized
  else
    let method := if auth.method = "" then "GET" else auth.method
    if auth.expires ≤ unix now ∨ auth.expires > unix (now + (s.ttl + 60) * 1000) then .error .unauthorized
    else if s.signature method artifactID ownerID auth.expires ≠ auth.signature then .error .unauthorized
    else .ok ()

/-- `validateAccess` (service.go:254). -/
def validateAccess (now : Int) (a : ArtifactAccess) : Except OpenError Unit :=
  if a.taskStatus ≠ .succeeded ∨ a.taskDeletedAt ≠ 0 ∨ a.artifact.state ≠ .active ∨ a.artifact.kind ≠ .finalVideo then .error .notFound
  else if a.artifact.expiresAt > 0 ∧ a.artifact.expiresAt ≤ now then .error .expired
  else .ok ()

/-- `nodeapi.ArtifactContent`, without the body. -/
structure ArtifactContent where
  statusCode : Nat
  contentLength : Int64
  contentRange : String := ""
  contentType : String := ""
  etag : String := ""

/-- `Content`, without the body. -/
structure Content where
  statusCode : Nat
  contentLength : Int64
  contentRange : String
  contentType : String
  etag : String
  artifactID : String

/-- `validETag` (service.go:411). -/
def validETag (etag digest : String) : Bool :=
  if etag = "" ∨ digest = "" then false else trim ['"'] (trimPrefix "W/".toList etag.toList) == digest.toList

/-- The part of `validContentRange` that compares with the request. -/
def requestedRange (requested : List Char) (total start ending : Int) : Bool :=
  match cut '-' (trimPrefix "bytes=".toList requested) with
  | none => false
  | some (startText, endText) =>
    if startText = [] ∨ ',' ∈ endText then false
    else if parseInt startText ≠ some start then false
    else if endText = [] then total - 1 == ending
    else parseInt endText == some ending

/-- The part that reads the answer. -/
def answeredRange (c : ArtifactContent) (total : Int) : Option (Int × Int) := do
  guard (c.statusCode = 206 ∧ "bytes ".toList.isPrefixOf c.contentRange.toList)
  let (span, totalText) ← cut '/' (trimPrefix "bytes ".toList c.contentRange.toList)
  let (startText, endText) ← cut '-' span
  let start ← parseInt startText
  let ending ← parseInt endText
  let declared ← parseInt totalText
  guard (0 ≤ start ∧ start ≤ ending ∧ declared = total ∧ c.contentLength = Int64.ofInt (ending - start + 1))
  pure (start, ending)

/-- `validContentRange` (service.go:418). -/
def validContentRange (c : ArtifactContent) (requested : String) (total : Int) : Bool :=
  if requested = "" then c.statusCode == 200 && c.contentLength == Int64.ofInt total && c.contentRange == ""
  else match answeredRange c total with
    | none => false
    | some (start, ending) => requestedRange requested.toList total start ending

/-- `safeContentType` (service.go:540); `mediaType` is what is left of the header in lower
case without parameters. -/
def safeContentType (mediaType : String → String) (value : String) : String :=
  if mediaType value ∈ ["video/mp4", "video/webm", "video/quicktime"] then mediaType value else "application/octet-stream"

/-- What `Open` meets on its way: free places of the owner and the node, the client of the
node, and its answer or the HTTP status of its error. -/
structure Attempt where
  ownerFree : Bool
  nodeFree : Bool
  client : Bool
  answer : Except (Option Nat) ArtifactContent

/-- `Open` (service.go:201). -/
def openContent (s : Service) (mediaType : String → String) (db : Database) (now : Int) (artifactID rangeHeader : String)
    (auth : Authorization) (a : Attempt) : Except OpenError Content := do
  let access ← (match getArtifactAccess artifactID db with
    | none => .error .notFound
    | some access => .ok access : Except OpenError ArtifactAccess)
  authorize s now access.apiKeyID artifactID auth
  validateAccess now access
  if !a.ownerFree then .error .busy
  else if !a.nodeFree then .error .busy
  else if !a.client then .error .unavailable
  else match a.answer with
    | .error (some 404) | .error (some 410) => .error .expired
    | .error (some 416) => .error .invalidRange
    | .error _ => .error .unavailable
    | .ok c =>
      if validETag c.etag (access.artifact.sha256.getD "") && validContentRange c rangeHeader access.artifact.sizeBytes then
        .ok { statusCode := c.statusCode, contentLength := c.contentLength, contentRange := c.contentRange
              contentType := safeContentType mediaType c.contentType, etag := c.etag, artifactID := artifactID }
      else .error .integrity

/-! ## Ranges -/

/-- One range of a `Range` header. -/
inductive RangeSpec
  | span (first : Nat) (last : Option Nat)
  | suffix (length : Nat)

/-- The bytes of a representation of length `total` that a satisfiable range asks for, the
last one included: an end past the last byte stands for the last byte. -/
def RangeSpec.bytes (total : Nat) : RangeSpec → Option (Nat × Nat)
  | .span first none => if first < total then some (first, total - 1) else none
  | .span first (some last) => if first ≤ last ∧ first < total then some (first, min last (total - 1)) else none
  | .suffix length => if 0 < length ∧ 0 < total then some (total - length, total - 1) else none

/-- The text of the range. -/
inductive RangeSpec.Reads : RangeSpec → List Char → Prop
  | closed {first last : Nat} {a b : List Char} : decimal a = some first → decimal b = some last →
      Reads (.span first (some last)) (a ++ '-' :: b)
  | openEnded {first : Nat} {a : List Char} : decimal a = some first → Reads (.span first none) (a ++ ['-'])
  | suffix {length : Nat} {b : List Char} : decimal b = some length → Reads (.suffix length) ('-' :: b)

/-- The header asks for one range of bytes; the name of the unit may be written in any case. -/
def Spells (header : String) (spec : RangeSpec) : Prop :=
  ∃ unit range, header.toList = unit ++ '=' :: range ∧ unit.map Char.toLower = "bytes".toList ∧ spec.Reads range

/-- The answer that HTTP prescribes for a satisfiable range. -/
structure Prescribed (first last total : Nat) (c : ArtifactContent) : Prop where
  status : c.statusCode = 206
  length : c.contentLength = Int64.ofInt (last - first + 1)
  range : ∃ a b t, c.contentRange.toList = "bytes ".toList ++ (a ++ '-' :: b ++ '/' :: t) ∧
    decimal a = some first ∧ decimal b = some last ∧ decimal t = some total

/-- The content range of the answer is that of the bytes `first` to `last`. -/
def Covers (first last total : Nat) (c : ArtifactContent) : Prop :=
  ∃ a b t, c.contentRange.toList = "bytes ".toList ++ (a ++ '-' :: b ++ '/' :: t) ∧
    parseInt a = some (first : Int) ∧ parseInt b = some (last : Int) ∧ parseInt t = some (total : Int)

/-- The entity tag is the digest, strong or weak. -/
def RightETag (etag digest : String) : Prop :=
  etag.toList = '"' :: digest.toList ++ ['"'] ∨ etag.toList = "W/".toList ++ ('"' :: digest.toList ++ ['"'])

/-- The header starts with the unit in lower case, and the range has a start and no end past
the last byte. -/
def Inside (header : String) (spec : RangeSpec) (total : Nat) : Prop :=
  "bytes=".toList <+: header.toList ∧ ∃ first last, spec = .span first last ∧ ∀ l, last = some l → l < total

section
variable {c : ArtifactContent} {total start ending : Int} {header : List Char}

theorem dash_not_mem {s : List Char} {n : Nat} (denotes : decimal s = some n) : '-' ∉ s :=
  fun mem => absurd (digit_of_decimal denotes '-' mem) (by decide)

theorem slash_not_mem {s : List Char} {n : Nat} (denotes : decimal s = some n) : '/' ∉ s :=
  fun mem => absurd (digit_of_decimal denotes '/' mem) (by decide)

theorem answeredRange_eq_some :
    answeredRange c total = some (start, ending) ↔ c.statusCode = 206 ∧
      (∃ a b t, c.contentRange.toList = "bytes ".toList ++ (a ++ '-' :: b ++ '/' :: t) ∧ '-' ∉ a ∧ '/' ∉ a ++ '-' :: b ∧
        parseInt a = some start ∧ parseInt b = some ending ∧ parseInt t = some total) ∧
      0 ≤ start ∧ start ≤ ending ∧ c.contentLength = Int64.ofInt (ending - start + 1) := by
  unfold answeredRange
  simp only [Option.bind_eq_bind, Option.bind_eq_some_iff, Option.guard_eq_some', Option.pure_def, Option.some.injEq, Prod.mk.injEq,
    Prod.exists, cut_eq_some]
  constructor
  · rintro ⟨_, ⟨status, isRange⟩, span, t, ⟨split, noSlash⟩, a, b, ⟨rfl, noDash⟩, s, hs, e, he, d, hd, _, ⟨low, le, rfl, length⟩, rfl, rfl⟩
    refine ⟨status, ⟨a, b, t, ?_, noDash, noSlash, hs, he, hd⟩, low, le, length⟩
    obtain ⟨rest, whole⟩ := List.isPrefixOf_iff_prefix.mp isRange
    rw [← whole, trimPrefix_append] at split
    rw [← whole, split]
  · rintro ⟨status, ⟨a, b, t, whole, noDash, noSlash, hs, he, hd⟩, low, le, length⟩
    refine ⟨(), ⟨status, List.isPrefixOf_iff_prefix.mpr ⟨_, whole.symm⟩⟩,
      a ++ '-' :: b, t, ⟨?_, noSlash⟩, a, b, ⟨rfl, noDash⟩, _, hs, _, he, _,
      hd, (), ⟨low, le, rfl, length⟩, rfl, rfl⟩
    rw [whole, trimPrefix_append]

/-- A header in lower case is its range after the unit. -/
theorem Spells.lower {header : String} {spec : RangeSpec} (spells : Spells header spec) (lower : "bytes=".toList <+: header.toList) :
    ∃ range, header.toList = "bytes=".toList ++ range ∧ spec.Reads range := by
  obtain ⟨unit, range, whole, unitName, reads⟩ := spells
  obtain ⟨rest, split⟩ := lower
  have length : unit.length = 5 := by simpa using congrArg List.length unitName
  have same : (unit ++ ['=']) ++ range = "bytes=".toList ++ rest := by rw [split, whole]; simp
  obtain ⟨head, tail⟩ := List.append_inj same (by simp [length])
  exact ⟨range, by rw [whole, ← head]; simp, reads⟩

/-- Any other spelling of the unit is taken for a part of the start. -/
theorem Spells.upper {header : String} {spec : RangeSpec} (spells : Spells header spec) (upper : ¬ "bytes=".toList <+: header.toList) :
    requestedRange header.toList total start ending = false := by
  obtain ⟨unit, range, whole, unitName, -⟩ := spells
  have kept : trimPrefix "bytes=".toList header.toList = header.toList :=
    if_neg (by rw [List.isPrefixOf_iff_prefix]; exact upper)
  have letters : '-' ∉ unit := by
    intro mem
    have : Char.toLower '-' ∈ "bytes".toList := unitName ▸ List.mem_map_of_mem mem
    exact absurd this (by decide)
  rw [requestedRange, kept]
  cases found : cut '-' header.toList with
  | none => rfl
  | some parts =>
    obtain ⟨startText, endText⟩ := parts
    obtain ⟨split, noDash⟩ := cut_eq_some.mp found
    -- The first dash comes after the sign of equality.
    have equals : '=' ∈ startText := by
      rw [whole] at split
      rcases List.append_eq_append_iff.mp split with ⟨mid, rfl, rest⟩ | ⟨mid, rfl, rest⟩
      · cases mid with
        | nil => cases rest
        | cons d mid =>
          obtain ⟨rfl, -⟩ := List.cons.inj rest
          simp
      · cases mid with
        | nil => cases rest
        | cons d mid =>
          obtain ⟨rfl, -⟩ := List.cons.inj rest
          simp at letters
    have unparsed : parseInt startText ≠ some start := by
      intro parsed
      exact absurd (mem_of_parseInt parsed '=' equals) (by decide)
    simp [unparsed]

theorem requestedRange_suffix {b : List Char} : requestedRange ("bytes=".toList ++ '-' :: b) total start ending = false := by
  have split : cut '-' ('-' :: b) = some ([], b) := cut_eq_some.mpr ⟨rfl, List.not_mem_nil⟩
  rw [requestedRange, trimPrefix_append, split]
  simp

theorem requestedRange_from {first : Nat} {a b : List Char} (denotes : decimal a = some first) (fits : first < 2 ^ 63) :
    requestedRange ("bytes=".toList ++ (a ++ '-' :: b)) total start ending = true ↔
      start = first ∧ ',' ∉ b ∧ (if b = [] then total - 1 = ending else parseInt b = some ending) := by
  have split : cut '-' (a ++ '-' :: b) = some (a, b) := cut_eq_some.mpr ⟨rfl, dash_not_mem denotes⟩
  have given : a ≠ [] := by
    rintro rfl
    cases denotes
  rw [requestedRange, trimPrefix_append, split]
  simp only [given, false_or, parseInt_decimal denotes, fits, if_true]
  by_cases list : ',' ∈ b
  · simp [list]
  · by_cases same : (first : Int) = start
    · subst same
      by_cases none : b = [] <;> simp [none, list]
    · simp [list, same, Ne.symm same]

/-- The range with a start is compared with the bytes that it names. -/
theorem requestedRange_reads {first : Nat} {last : Option Nat} {range : List Char}
    {total : Nat} (reads : (RangeSpec.span first last).Reads range)
    (fits : first < 2 ^ 63) :
    requestedRange ("bytes=".toList ++ range) total start ending = true ↔
      start = first ∧ match last with
        | none => (total : Int) - 1 = ending
        | some l => l < 2 ^ 63 ∧ ending = l := by
  cases reads with
  | @closed _ l a b ha hb =>
    have noComma : ',' ∉ b := fun mem => absurd (digit_of_decimal hb ',' mem) (by decide)
    have given : b ≠ [] := by
      rintro rfl
      cases hb
    rw [requestedRange_from ha fits, if_neg given, parseInt_decimal hb]
    by_cases small : l < 2 ^ 63
    · rw [if_pos small]
      simp only [Option.some.injEq]
      exact ⟨fun h => ⟨h.1, small, h.2.2.symm⟩, fun h => ⟨h.1, noComma, h.2.2.symm⟩⟩
    · rw [if_neg small]
      exact ⟨fun h => (nomatch h.2.2), fun h => absurd h.2.1 small⟩
  | openEnded ha =>
    rw [requestedRange_from ha fits, if_pos rfl]
    exact ⟨fun h => ⟨h.1, h.2.2⟩, fun h => ⟨h.1, List.not_mem_nil, h.2⟩⟩

/-- With the unit in lower case, a start and no end past the last byte, the request is compared
with the right bytes; otherwise the right bytes are refused. -/
theorem requestedRange_iff {header : String} {spec : RangeSpec} {total first last : Nat} (spells : Spells header spec)
    (satisfiable : spec.bytes total = some (first, last)) (fits : total < 2 ^ 63) :
    (requestedRange header.toList total first last = true → Inside header spec total) ∧
      (Inside header spec total → ∀ start ending,
        requestedRange header.toList total start ending = true ↔ start = first ∧ ending = last) := by
  by_cases lower : "bytes=".toList <+: header.toList
  · obtain ⟨range, whole, reads⟩ := spells.lower lower
    rw [whole]
    cases spec with
    | suffix length =>
      refine ⟨fun accepted => ?_, fun inside => ?_⟩
      · cases reads
        rw [requestedRange_suffix] at accepted
        cases accepted
      · obtain ⟨-, _, _, isFrom, -⟩ := inside
        cases isFrom
    | span first' last' =>
      have bounds : first' = first ∧ first < total ∧
          (match last' with | none => last = total - 1 | some l => last = min l (total - 1)) := by
        cases last' with
        | none =>
          simp only [RangeSpec.bytes, Option.ite_none_right_eq_some, Option.some.injEq, Prod.mk.injEq] at satisfiable
          obtain ⟨lt, rfl, rfl⟩ := satisfiable
          exact ⟨rfl, lt, rfl⟩
        | some l =>
          simp only [RangeSpec.bytes, Option.ite_none_right_eq_some, Option.some.injEq, Prod.mk.injEq] at satisfiable
          obtain ⟨⟨-, lt⟩, rfl, rfl⟩ := satisfiable
          exact ⟨rfl, lt, rfl⟩
      obtain ⟨rfl, lt, ends⟩ := bounds
      simp only [requestedRange_reads reads (show first' < 2 ^ 63 by omega)]
      refine ⟨fun accepted => ⟨lower, _, _, rfl, ?_⟩, fun inside start ending => ?_⟩
      · rintro l rfl
        obtain ⟨-, -, same⟩ := accepted
        dsimp only at ends
        omega
      · obtain ⟨-, _, _, isFrom, within⟩ := inside
        cases isFrom
        refine and_congr_right fun _ => ?_
        cases last' with
        | none =>
          dsimp only at ends ⊢
          omega
        | some l =>
          have := within l rfl
          dsimp only at ends ⊢
          omega
  · refine ⟨fun accepted => ?_, fun inside => absurd inside.1 lower⟩
    rw [spells.upper lower] at accepted
    cases accepted

theorem validETag_of_right {etag digest : String} (given : digest ≠ "") (clean : '"' ∉ digest.toList) (right : RightETag etag digest) :
    validETag etag digest = true := by
  have nonempty : etag ≠ "" := by
    rintro rfl
    rcases right with h | h <;> cases h
  rw [validETag, if_neg (by simp [nonempty, given]), beq_iff_eq]
  rcases right with strong | weak
  · rw [strong]
    have kept : trimPrefix "W/".toList ('"' :: digest.toList ++ ['"']) = '"' :: digest.toList ++ ['"'] := if_neg (by simp)
    rw [kept, trim_between clean]
  · rw [weak, trimPrefix_append, trim_between clean]

end

/-! ## The result -/

/-- The artifact may be read and its node be asked for it; its digest is that of a file. -/
structure Ready (s : Service) (db : Database) (now : Int) (artifactID : String) (auth : Authorization) (access : ArtifactAccess)
    (digest : String) (total : Nat) : Prop where
  found : getArtifactAccess artifactID db = some access
  authorized : authorize s now access.apiKeyID artifactID auth = .ok ()
  valid : validateAccess now access = .ok ()
  sha256 : access.artifact.sha256 = some digest
  hex : digest ≠ "" ∧ '"' ∉ digest.toList
  size : access.artifact.sizeBytes = total
  int64 : total < 2 ^ 63

section
variable {s : Service} {mediaType : String → String} {db : Database} {now : Int} {artifactID header : String} {auth : Authorization}
  {access : ArtifactAccess} {digest : String} {total first last : Nat} {c : ArtifactContent}

/-- What `Open` returns once the node has answered. -/
def opened (s : Service) (mediaType : String → String) (db : Database) (now : Int) (artifactID header : String) (auth : Authorization)
    (c : ArtifactContent) : Except OpenError Content :=
  openContent s mediaType db now artifactID header auth { ownerFree := true, nodeFree := true, client := true, answer := .ok c }

theorem opened_iff (ready : Ready s db now artifactID auth access digest total) :
    (∃ content, opened s mediaType db now artifactID header auth c = .ok content) ↔
      validETag c.etag digest = true ∧ validContentRange c header total = true := by
  have eq : opened s mediaType db now artifactID header auth c =
      if validETag c.etag digest && validContentRange c header total then
        .ok { statusCode := c.statusCode, contentLength := c.contentLength, contentRange := c.contentRange
              contentType := safeContentType mediaType c.contentType, etag := c.etag, artifactID := artifactID }
      else .error .integrity := by
    simp only [opened, openContent, ready.found, bind, Except.bind, ready.authorized, ready.valid, ready.sha256, ready.size,
      Option.getD_some, Bool.not_true, Bool.false_eq_true, if_false]
  rw [eq]
  split
  · rename_i accepted
    exact ⟨fun _ => by simpa using accepted, fun _ => ⟨_, rfl⟩⟩
  · rename_i refused
    refine ⟨fun ⟨_, h⟩ => (nomatch h), fun accepted => absurd ?_ refused⟩
    simpa using accepted

/-- The prescribed answer is read as it is meant. -/
theorem Prescribed.answered (prescribed : Prescribed first last total c) (fits : total < 2 ^ 63) (le : first ≤ last) (lt : last < total) :
    answeredRange c total = some ((first : Int), (last : Int)) := by
  obtain ⟨status, length, a, b, t, whole, ha, hb, ht⟩ := prescribed
  refine answeredRange_eq_some.mpr ⟨status, ⟨a, b, t, whole, dash_not_mem ha, ?_, ?_, ?_, ?_⟩, by omega, by omega, length⟩
  · simp [slash_not_mem ha, slash_not_mem hb]
  · rw [parseInt_decimal ha, if_pos (by omega)]
  · rw [parseInt_decimal hb, if_pos (by omega)]
  · rw [parseInt_decimal ht, if_pos fits]

/-- There is such an answer with the right entity tag. -/
theorem exists_prescribed : ∃ c, Prescribed first last total c ∧ RightETag c.etag digest := by
  obtain ⟨a, ha⟩ := exists_decimal
  obtain ⟨b, hb⟩ := exists_decimal
  obtain ⟨t, ht⟩ := exists_decimal
  refine ⟨{ statusCode := 206, contentLength := Int64.ofInt (last - first + 1), etag := String.ofList ('"' :: digest.toList ++ ['"'])
            contentRange := String.ofList ("bytes ".toList ++ (a ++ '-' :: b ++ '/' :: t)) },
    ⟨rfl, rfl, a, b, t, String.toList_ofList, ha, hb, ht⟩, .inl String.toList_ofList⟩

theorem RangeSpec.bytes_bounds {spec : RangeSpec} (satisfiable : spec.bytes total = some (first, last)) : first ≤ last ∧ last < total := by
  cases spec with
  | suffix length =>
    simp only [RangeSpec.bytes, Option.ite_none_right_eq_some, Option.some.injEq, Prod.mk.injEq] at satisfiable
    omega
  | span first' last' =>
    cases last' <;> simp only [RangeSpec.bytes, Option.ite_none_right_eq_some, Option.some.injEq, Prod.mk.injEq] at satisfiable <;> omega

theorem Spells.ne_empty {spec : RangeSpec} (spells : Spells header spec) : header ≠ "" := by
  rintro rfl
  obtain ⟨unit, range, whole, -⟩ := spells
  exact absurd whole (by simp)

/-- For every satisfiable range, `Open` accepts the prescribed answers and every partial answer
that it accepts covers the requested bytes, if and only if the header names its unit in lower
case, has a start, and has no end past the last byte. -/
theorem open_range {spec : RangeSpec} (ready : Ready s db now artifactID auth access digest total) (spells : Spells header spec)
    (satisfiable : spec.bytes total = some (first, last)) :
    ((∀ c, Prescribed first last total c → RightETag c.etag digest → ∃ content,
      opened s mediaType db now artifactID header auth c = .ok content) ∧
      ∀ c content, c.statusCode = 206 → opened s mediaType db now artifactID header auth c = .ok content → Covers first last total c) ↔
      Inside header spec total := by
  obtain ⟨le, lt⟩ := RangeSpec.bytes_bounds satisfiable
  have valid (c : ArtifactContent) : validContentRange c header total = true ↔
      ∃ start ending, answeredRange c total = some (start, ending) ∧ requestedRange header.toList total start ending = true := by
    rw [validContentRange, if_neg spells.ne_empty]
    cases answeredRange c total with
    | none => simp
    | some span =>
      obtain ⟨start, ending⟩ := span
      refine ⟨fun accepted => ⟨start, ending, rfl, accepted⟩, ?_⟩
      rintro ⟨_, _, same, accepted⟩
      cases same
      exact accepted
  constructor
  · rintro ⟨accepts, -⟩
    obtain ⟨c, prescribed, tag⟩ := exists_prescribed
    obtain ⟨-, accepted⟩ := (opened_iff ready).mp (accepts c prescribed tag)
    obtain ⟨start, ending, answered, requested⟩ := (valid c).mp accepted
    rw [prescribed.answered ready.int64 le lt] at answered
    cases answered
    exact (requestedRange_iff spells satisfiable ready.int64).1 requested
  · intro inside
    have compared := (requestedRange_iff spells satisfiable ready.int64).2 inside
    refine ⟨fun c prescribed tag => (opened_iff ready).mpr
      ⟨validETag_of_right ready.hex.1 ready.hex.2 tag, ?_⟩, fun c content _ accepted => ?_⟩
    · exact (valid c).mpr ⟨first, last, prescribed.answered ready.int64 le lt, (compared _ _).mpr ⟨rfl, rfl⟩⟩
    · obtain ⟨-, accepted⟩ := (opened_iff ready).mp ⟨content, accepted⟩
      obtain ⟨start, ending, answered, requested⟩ := (valid c).mp accepted
      obtain ⟨rfl, rfl⟩ := (compared _ _).mp requested
      obtain ⟨-, ⟨a, b, t, whole, -, -, ha, hb, ht⟩, -⟩ := answeredRange_eq_some.mp answered
      exact ⟨a, b, t, whole, ha, hb, ht⟩

end

/-- A finished task whose video of ten bytes is on one node, and a service. -/
def tenBytes : Database :=
  DB.empty.load
    [.insert Tbl.modelServiceNodes fun _ _ =>
      [{ id := "n1", serviceURL := "https://n1", protocolVersion := .h3, apiKeyCiphertext := some "c", apiKeyNonce := some "n"
         apiKeyFingerprint := some "f", apiKeyID := some "i", createdAt := 0, updatedAt := 0 }],
    .insert Tbl.videoTasks fun _ seq =>
      [{ queueSeq := seq, taskID := "t1", apiKeyID := "k1", requestJSON := .value { model := "MiniMax-H3", content := [] }
         status := .succeeded, createdAt := 0, updatedAt := 0, expiresAt := 1000 }],
    .insert Tbl.taskArtifacts fun _ _ =>
      [{ id := "a1", taskID := "t1", kind := .finalVideo, sizeBytes := 10, sha256 := some "ab", createdAt := 0, expiresAt := 0 }],
    .insert Tbl.artifactLocations fun _ _ =>
      [{ id := "l1", artifactID := "a1", nodeID := "n1", nodeArtifactID := "x1",
         isPrimary := true, sizeBytes := 10, sha256 := "ab", createdAt := 0 }],
    .update Tbl.videoTasks (fun _ _ => true) fun _ (t : Task) => { t with resultArtifactID := some "a1" }]

def sampleService : Service := ⟨fun _ _ _ _ => "", 900⟩

theorem tenBytes_ready : ∃ access, Ready sampleService tenBytes 0 "a1" { bearerOwner := "k1" } access "ab" 10 :=
  ⟨_, rfl, rfl, rfl, rfl, by decide, rfl, by decide⟩

/-- The first five bytes are requested and answered. -/
theorem open_range_first_five :
    ∃ content, opened sampleService id tenBytes 0 "a1" "bytes=0-4" { bearerOwner := "k1" }
      { statusCode := 206, contentLength := 5, contentRange := "bytes 0-4/10", etag := "\"ab\"" } = .ok content := by
  obtain ⟨access, ready⟩ := tenBytes_ready
  have spells : Spells "bytes=0-4" (.span 0 (some 4)) :=
    ⟨"bytes".toList, ['0', '-', '4'], by decide, by decide, .closed (a := ['0']) rfl rfl⟩
  have inside : Inside "bytes=0-4" (.span 0 (some 4)) 10 :=
    ⟨by decide, 0, some 4, rfl, fun l eq => by cases eq; decide⟩
  exact ((open_range ready spells rfl).mpr inside).1 _ ⟨rfl, rfl, ['0'], ['4'], ['1', '0'], by decide, rfl, rfl, rfl⟩ (.inl (by decide))

/-- An end past the last byte and a suffix are refused with the prescribed answer, and the
answer with bytes past the last one is accepted. -/
theorem clamped_ranges_refused :
    let accepts (header : String) (c : ArtifactContent) := (opened sampleService id tenBytes 0 "a1" header { bearerOwner := "k1" } c).toBool
    let whole : ArtifactContent := { statusCode := 206, contentLength := 10, contentRange := "bytes 0-9/10", etag := "\"ab\"" }
    let tail : ArtifactContent := { statusCode := 206, contentLength := 5, contentRange := "bytes 5-9/10", etag := "\"ab\"" }
    let long : ArtifactContent := { statusCode := 206, contentLength := 100, contentRange := "bytes 0-99/10", etag := "\"ab\"" }
    (RangeSpec.span 0 (some 99)).bytes 10 = some (0, 9) ∧ (RangeSpec.suffix 5).bytes 10 = some (5, 9) ∧
      Spells "bytes=0-99" (.span 0 (some 99)) ∧ Spells "bytes=-5" (.suffix 5) ∧ Prescribed 0 9 10 whole ∧ Prescribed 5 9 10 tail ∧
      accepts "bytes=0-99" whole = false ∧ accepts "bytes=-5" tail = false ∧ accepts "bytes=0-99" long = true := by
  refine ⟨rfl, rfl, ?_, ?_, ?_, ?_, ?_, ?_, ?_⟩
  · exact ⟨"bytes".toList, ['0', '-', '9', '9'], by decide, by decide, .closed (a := ['0']) rfl rfl⟩
  · exact ⟨"bytes".toList, ['-', '5'], by decide, by decide, .suffix rfl⟩
  · exact ⟨rfl, rfl, ['0'], ['9'], ['1', '0'], by decide, rfl, rfl, rfl⟩
  · exact ⟨rfl, rfl, ['5'], ['9'], ['1', '0'], by decide, rfl, rfl, rfl⟩
  · decide +kernel
  · decide +kernel
  · decide +kernel

end MinimaxProxy.Download

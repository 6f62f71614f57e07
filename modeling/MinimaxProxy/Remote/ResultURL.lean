import MinimaxProxy.Domain.Types
import MinimaxProxy.Net.Guard

/-!
# The URL of a remote result

A result URL is checked twice: by the client that reads the state of the remote task
(`tk2sd/tasks.go`), and by the processor or the reader of results that stores it
(`remote/result_access.go`). Go's library is a parameter, and so are the clock and the network.
-/

namespace MinimaxProxy.Tk2sd
open Net

/-- What is used of Go's library. -/
structure Library extends Netguard.Library where
  /-- `url.ParseQuery`: the keys and values in order. -/
  parseQuery : String → Option (List (String × String))
  /-- The key under which `strings.EqualFold` compares. -/
  fold : String → String
  /-- `path.Clean`. -/
  clean : String → String
  isControl : Char → Bool
  /-- The regular expression `sensitiveText` (client.go:237). -/
  sensitive : String → Bool

/-- The values of a key. -/
def values (query : List (String × String)) (key : String) : List String := (query.filter (·.1 == key)).map (·.2)

/-- `Values.Get`. -/
def get (query : List (String × String)) (key : String) : String := (values query key).headD ""

/-- `headerValue` (client.go:268). -/
def headerValue (s : String) (most : Nat) : Bool :=
  s.utf8ByteSize ≠ 0 && s.utf8ByteSize ≤ most && s.toList.all fun r => 33 ≤ r.toNat && r.toNat ≤ 126

/-- `validID` (client.go:280). -/
def validID (id : String) : Bool :=
  id.utf8ByteSize ≠ 0 && id.utf8ByteSize ≤ 128 && id.toList.all fun r =>
    ('a' ≤ r && r ≤ 'z') || ('A' ≤ r && r ≤ 'Z') || ('0' ≤ r && r ≤ '9') || r == '_' || r == '-'

/-- The port of a URL, or the one of its scheme. -/
def portOf (u : URL) : String := if u.port ≠ "" then u.port else if u.scheme = "https" then "443" else "80"

/-- The path of the media of a task below a base. -/
def mediaPath (base id : String) : String := base ++ "/media/tasks/" ++ id

/-- `strings.TrimRight(path, "/")`. -/
def trimSlashes (path : String) : String := .ofList (Text.trimRight ['/'] path.toList)

inductive ClientError
  | invalidRequest
  | invalidResponse
  | unsafeURL
  /-- No answer, or one that is not that of a task. -/
  | request
  deriving DecidableEq

/-- `Client`, as far as URLs go. -/
structure Client where
  apiKey : String
  baseURL : URL
  configErr : Bool

section
variable (lib : Library) (net : Netguard.Network) (now : Int)

/-- `validName` (client.go:292). -/
def validName (s : String) : Bool :=
  lib.trimSpace s == s && s != "" && s.utf8ByteSize ≤ 256 && !s.toList.any lib.isControl

/-- A base URL that `NewClient` refuses (client.go:77). -/
def badBase (u : URL) : Bool :=
  (u.scheme != "http" && u.scheme != "https") || u.hostname == "" || u.user || u.opaquePart != "" || u.rawQuery != "" || u.forceQuery
    || u.fragment != "" || u.rawFragment != "" || u.rawPath != "" || u.path.toList.any (['\\', '%'].contains ·)
    || (u.path != "" && lib.clean u.path != trimSlashes u.path && u.path != "/")

/-- `NewClient` (client.go:69). -/
def newClient (baseURL : URL) (apiKey : String) : Client where
  apiKey := apiKey
  baseURL := { baseURL with path := trimSlashes baseURL.path }
  configErr := badBase lib baseURL || !headerValue apiKey 4096

/-- `sameOrigin` (tasks.go:240). -/
def sameOrigin (a b : URL) : Bool := a.scheme == b.scheme && lib.fold a.hostname == lib.fold b.hostname && portOf a == portOf b

/-- The guard of a client, which has no further ports. -/
def guarded (raw : String) : Bool :=
  (Netguard.validate lib.toLibrary (Netguard.newPorts lib.toLibrary []) net raw).toBool

/-- `validateVideoURL` (tasks.go:211). -/
def validateVideoURL (c : Client) (id raw : String) : Except ClientError Unit :=
  match lib.parse raw with
  | none => .error .unsafeURL
  | some u =>
    if u.user = true ∨ u.opaquePart ≠ "" ∨ u.fragment ≠ "" ∨ u.rawFragment ≠ "" ∨ u.hostname = "" ∨ (u.scheme ≠ "http" ∧ u.scheme ≠ "https")
    then .error .unsafeURL
    else match lib.parseQuery u.rawQuery with
      | none => .error .unsafeURL
      | some query =>
        if (values query "expires").length ≠ 1 ∨ (values query "signature").length ≠ 1 ∨ headerValue (get query "signature") 512 = false
        then .error .unsafeURL
        else match Text.parseInt (get query "expires").toList with
          | none => .error .unsafeURL
          | some expires =>
            if expires ≤ now then .error .unsafeURL
            else if sameOrigin lib c.baseURL u = true then
              if u.path ≠ mediaPath c.baseURL.path id ∨ u.rawPath ≠ "" then .error .unsafeURL else .ok ()
            else if u.scheme ≠ "https" then .error .unsafeURL
            else if guarded lib net raw = true then .ok () else .error .unsafeURL

/-- `TaskError`. -/
structure TaskError where
  code : String
  message : String

/-- What `Query` decodes. -/
structure Response where
  id : String
  model : String
  status : String
  videoURL : String := ""
  error : Option TaskError := none
  ratio : String := ""
  resolution : String := ""

/-- `Task`. -/
structure Task where
  id : String
  model : String
  status : RemoteStatus
  videoURL : String
  error : Option TaskError
  ratio : String
  resolution : String

def statusOf (status : String) : Option RemoteStatus :=
  match status with
  | "queued" => some .queued
  | "running" => some .running
  | "succeeded" => some .succeeded
  | "failed" => some .failed
  | "cancelled" => some .cancelled
  | _ => none

/-- `safeText` (client.go:239). -/
def safeText (c : Client) (value : String) (limit : Nat) : String :=
  if (c.apiKey ≠ "" ∧ c.apiKey.toList <:+: value.toList) ∨ lib.sensitive value = true then "[redacted]"
  else .ofList ((value.toList.map fun r => if lib.isControl r then ' ' else r).take limit)

/-- The error of a failed task, which must have one. -/
def taskError (c : Client) (status : RemoteStatus) (error : Option TaskError) : Except ClientError (Option TaskError) :=
  if status = .failed then match error with
    | none => .error .invalidResponse
    | some e => if e.code = "" ∨ e.message = "" then .error .invalidResponse
      else .ok (some ⟨safeText lib c e.code 128, safeText lib c e.message 512⟩)
  else .ok error

/-- `Query` (tasks.go:132), with what the node answers. -/
def query (c : Client) (id : String) (answer : Except ClientError Response) : Except ClientError Task := do
  if validID id = false ∨ c.configErr = true then .error .invalidRequest
  else do
    let result ← answer
    if result.id ≠ id ∨ validName lib result.model = false then .error .invalidResponse
    else match statusOf result.status with
      | none => .error .invalidResponse
      | some status => do
        let error ← taskError lib c status result.error
        if status = .succeeded then do
          validateVideoURL lib net now c id result.videoURL
          .ok ⟨result.id, result.model, status, result.videoURL, error, result.ratio, result.resolution⟩
        else .ok ⟨result.id, result.model, status, "", error, result.ratio, result.resolution⟩

end

/-! ## What the client accepts -/

/-- `u` is the URL of `raw`, with one signature and one time that has not come yet; it is the
media of the task on the node, or lies elsewhere on the public internet. -/
structure VideoURL (lib : Library) (net : Netguard.Network) (now : Int) (c : Client) (id raw : String) (u : URL)
    (query : List (String × String)) (expires : Int) : Prop where
  parsed : lib.parse raw = some u
  plain : u.user = false ∧ u.opaquePart = "" ∧ u.fragment = ""
  host : u.hostname ≠ ""
  scheme : u.scheme = "http" ∨ u.scheme = "https"
  read : lib.parseQuery u.rawQuery = some query
  once : (values query "expires").length = 1 ∧ (values query "signature").length = 1
  signature : headerValue (get query "signature") 512 = true
  number : Text.parseInt (get query "expires").toList = some expires
  future : now < expires
  place : (sameOrigin lib c.baseURL u = true ∧ u.path = mediaPath c.baseURL.path id ∧ u.rawPath = "") ∨
    (sameOrigin lib c.baseURL u = false ∧ u.scheme = "https" ∧ guarded lib net raw = true)

section
variable {lib : Library} {net : Netguard.Network} {now : Int} {c : Client} {id raw : String}

theorem validateVideoURL_ok (h : validateVideoURL lib net now c id raw = .ok ()) :
    ∃ u query expires, VideoURL lib net now c id raw u query expires := by
  rw [validateVideoURL] at h
  split at h
  · cases h
  rename_i u parsed
  split at h
  · cases h
  rename_i clean
  simp only [not_or, Bool.not_eq_true, not_not, not_and_or] at clean
  obtain ⟨user, opaquePart, fragment, -, host, scheme⟩ := clean
  split at h
  · cases h
  rename_i query read
  split at h
  · cases h
  rename_i single
  simp only [not_or, not_not, Bool.not_eq_false] at single
  obtain ⟨expiresOnce, signatureOnce, signature⟩ := single
  split at h
  · cases h
  rename_i expires number
  split at h
  · cases h
  rename_i future
  refine ⟨u, query, expires, parsed, ⟨user, opaquePart, fragment⟩, host, scheme, read, ⟨expiresOnce, signatureOnce⟩, signature, number,
    by omega, ?_⟩
  split at h
  · rename_i same
    split at h
    · cases h
    rename_i own
    simp only [not_or, not_not] at own
    exact .inl ⟨same, own⟩
  · rename_i other
    split at h
    · cases h
    rename_i secure
    split at h
    · rename_i isGuarded
      exact .inr ⟨Bool.eq_false_of_not_eq_true other, not_not.mp secure, isGuarded⟩
    · cases h

/-- A task that `Query` returns as succeeded has a URL that it has checked. -/
theorem query_ok {answer : Except ClientError Response} {task : Task} (h : query lib net now c id answer = .ok task)
    (succeeded : task.status = .succeeded) :
    validID id = true ∧ c.configErr = false ∧ validateVideoURL lib net now c id task.videoURL = .ok () := by
  rw [query] at h
  split at h
  · cases h
  rename_i valid
  simp only [not_or, Bool.not_eq_false, Bool.not_eq_true] at valid
  refine ⟨valid.1, valid.2, ?_⟩
  cases answer with
  | error e => cases h
  | ok result =>
    simp only [bind, Except.bind] at h
    split at h
    · cases h
    split at h
    · cases h
    rename_i status _
    split at h
    · cases h
    split at h
    · split at h
      · cases h
      · rename_i u accepted
        cases h
        exact accepted
    · rename_i other
      cases h
      exact absurd succeeded other

end

end MinimaxProxy.Tk2sd

namespace MinimaxProxy.Remote
open Net Tk2sd

/-- `ValidateResultURL` (result_access.go:227): the time at which the URL expires. -/
def validateResultURL (lib : Library) (net : Netguard.Network) (now : Int) (base : Option URL) (id raw : String) : Except ClientError Int :=
  match lib.parse raw, base with
  | none, _ | _, none => .error .unsafeURL
  | some u, some base =>
    if base.hostname = "" ∨ (base.scheme ≠ "http" ∧ base.scheme ≠ "https") ∨
        u.hostname = "" ∨ u.user = true ∨ u.opaquePart ≠ "" ∨ u.fragment ≠ ""
      ∨ u.rawPath ≠ "" ∨ '\\' ∈ u.path.toList ∨ (u.scheme ≠ "http" ∧ u.scheme ≠ "https") then .error .unsafeURL
    else match lib.parseQuery u.rawQuery with
      | none => .error .unsafeURL
      | some q =>
        if (values q "expires").length ≠ 1 ∨ (values q "signature").length ≠ 1 ∨ get q "signature" = "" then .error .unsafeURL
        else match Text.parseInt (get q "expires").toList with
          | none => .error .unsafeURL
          | some expires =>
            if expires ≤ now then .error .unsafeURL
            else if u.scheme = base.scheme ∧ lib.fold u.hostname = lib.fold base.hostname ∧ portOf u = portOf base then
              if id = "" ∨ id.toList.any (['/', '\\', '.', '%'].contains ·) = true ∨ u.path ≠ mediaPath (trimSlashes base.path) id
              then .error .unsafeURL else .ok expires
            else if u.scheme ≠ "https" then .error .unsafeURL
            else if guarded lib net raw = true then .ok expires else .error .unsafeURL

section
variable {lib : Library} {net : Netguard.Network} {now : Int} {base u : URL}
  {apiKey id raw : String} {q : List (String × String)} {expires : Int}

theorem headerValue_ne_empty {s : String} {most : Nat} (h : headerValue s most = true) : s ≠ "" := by
  rintro rfl
  cases h

/-- A valid id has none of the characters that a path could be changed with. -/
theorem validID_plain (valid : Tk2sd.validID id = true) : id ≠ "" ∧ id.toList.any (['/', '\\', '.', '%'].contains ·) = false := by
  simp only [Tk2sd.validID, Bool.and_eq_true, List.all_eq_true] at valid
  refine ⟨fun empty => ?_, List.any_eq_false.mpr fun c mem listed => ?_⟩
  · subst empty
    exact absurd valid.1.1 (by decide)
  · have allowed := valid.2 c mem
    simp only [List.contains_eq_mem, List.mem_cons, List.not_mem_nil, or_false, decide_eq_true_eq] at listed
    rcases listed with rfl | rfl | rfl | rfl <;> exact absurd allowed (by decide)

theorem sameOrigin_iff : sameOrigin lib base u = true ↔
    u.scheme = base.scheme ∧ lib.fold u.hostname = lib.fold base.hostname ∧ portOf u = portOf base := by
  simp only [sameOrigin, Bool.and_eq_true, beq_iff_eq, eq_comm (a := base.scheme), eq_comm (a := lib.fold base.hostname),
    eq_comm (a := portOf base), and_assoc]

/-- A URL that the client has accepted is accepted again if its path is plain. -/
theorem validateResultURL_of_video (video : VideoURL lib net now (newClient lib base apiKey) id raw u q expires)
    (good : badBase lib base = false) (valid : Tk2sd.validID id = true) (plain : u.rawPath = "" ∧ '\\' ∉ u.path.toList) :
    validateResultURL lib net now (some base) id raw = .ok expires := by
  have known : base.hostname ≠ "" ∧ (base.scheme = "http" ∨ base.scheme = "https") := by
    simp only [badBase, Bool.or_eq_false_iff, Bool.and_eq_false_iff, beq_eq_false_iff_ne, bne_eq_false_iff_eq] at good
    exact ⟨good.1.1.1.1.1.1.1.1.1.2, good.1.1.1.1.1.1.1.1.1.1⟩
  simp only [validateResultURL, video.parsed, video.read, video.number]
  rw [if_neg (by
      simp only [not_or, not_and_or, not_not, Bool.not_eq_true]
      exact ⟨known.1, known.2, video.host, video.plain.1, video.plain.2.1, video.plain.2.2, plain.1, plain.2, video.scheme⟩),
    if_neg (by
      simp only [not_or, not_not]
      exact ⟨video.once.1, video.once.2, headerValue_ne_empty video.signature⟩),
    if_neg (Int.not_le.mpr video.future)]
  -- the client compares the same origin, since only the path of its base is trimmed
  have place := video.place
  rw [show sameOrigin lib (newClient lib base apiKey).baseURL u = sameOrigin lib base u from rfl] at place
  rcases place with ⟨same, path, -⟩ | ⟨other, secure, isGuarded⟩
  · rw [if_pos (sameOrigin_iff.mp same), if_neg]
    simp only [not_or, not_not, Bool.not_eq_true]
    exact ⟨(validID_plain valid).1, (validID_plain valid).2, path⟩
  · rw [if_neg (fun same => absurd (sameOrigin_iff.mpr same) (by rw [other]; decide)), if_neg (not_not.mpr secure), if_pos isGuarded]

theorem validateResultURL_error (parsed : lib.parse raw = some u) (encoded : ¬ (u.rawPath = "" ∧ '\\' ∉ u.path.toList)) :
    validateResultURL lib net now (some base) id raw = .error .unsafeURL := by
  simp only [validateResultURL, parsed]
  refine if_pos ?_
  rw [not_and_or, not_not] at encoded
  rcases encoded with raw | slash
  · exact .inr (.inr (.inr (.inr (.inr (.inr (.inl raw))))))
  · exact .inr (.inr (.inr (.inr (.inr (.inr (.inr (.inl slash)))))))

/-- A URL that `Query` accepts for a succeeded task is accepted when it is stored if and only if
its path is plain: not encoded in another way than usual, and without a backslash. -/
theorem result_url_accepted {answer : Except ClientError Response} {task : Tk2sd.Task}
    (queried : Tk2sd.query lib net now (newClient lib base apiKey) id answer = .ok task) (succeeded : task.status = .succeeded)
    (parsed : lib.parse task.videoURL = some u) :
    (∃ expires, validateResultURL lib net now (some base) id task.videoURL = .ok expires) ↔ u.rawPath = "" ∧ '\\' ∉ u.path.toList := by
  obtain ⟨valid, config, accepted⟩ := query_ok queried succeeded
  have good : badBase lib base = false := (Bool.or_eq_false_iff.mp config).1
  obtain ⟨u', q, expires, video⟩ := validateVideoURL_ok accepted
  obtain rfl : u = u' := Option.some.inj (parsed.symm.trans video.parsed)
  constructor
  · rintro ⟨e, ok⟩
    by_contra encoded
    rw [validateResultURL_error parsed encoded] at ok
    cases ok
  · exact fun plain => ⟨expires, validateResultURL_of_video video good valid plain⟩

end

/-! ## Two results -/

/-- Go's library on a URL at `cdn.example.com` that is read as `u`. -/
def cdnLibrary (raw : String) (u : URL) : Library where
  parse s := if s = raw then some u else none
  render _ := raw
  parseAddr _ := none
  splitHostPort _ := none
  canonicalAddr _ := ""
  trimSpace := id
  toLower := id
  parseQuery s := if s = "expires=2000&signature=s" then some [("expires", "2000"), ("signature", "s")] else none
  fold := id
  clean := id
  isControl _ := false
  sensitive _ := false

def cdnURL (path rawPath : String) : URL :=
  { scheme := "https", hostname := "cdn.example.com", path := path, rawPath := rawPath, rawQuery := "expires=2000&signature=s" }

def nodeURL : URL := { scheme := "https", hostname := "node.example.com" }

/-- The answer of the node for the task `t1`. -/
def succeededAt (raw : String) : Response := { id := "t1", model := "m", status := "succeeded", videoURL := raw }

/-- What `Query` makes of it at time 1000. -/
def queriedAt (raw : String) (u : URL) : Except ClientError Tk2sd.Task :=
  Tk2sd.query (cdnLibrary raw u) Netguard.publicNetwork 1000 (newClient (cdnLibrary raw u) nodeURL "k") "t1" (.ok (succeededAt raw))

def storedAt (raw : String) (u : URL) : Except ClientError Int :=
  validateResultURL (cdnLibrary raw u) Netguard.publicNetwork 1000 (some nodeURL) "t1" raw

theorem result_url_accepted_plain :
    ∃ task, queriedAt "https://cdn.example.com/a.mp4?expires=2000&signature=s" (cdnURL "/a.mp4" "") = .ok task ∧
      ∃ expires, storedAt task.videoURL (cdnURL "/a.mp4" "") = .ok expires :=
  ⟨_, rfl, (result_url_accepted (show queriedAt _ _ = .ok _ from rfl) rfl (show _ = some (cdnURL "/a.mp4" "") from rfl)).mpr (by decide)⟩

/-- The path of this URL is written with an encoded slash: the client accepts it, and then it is
not stored. -/
theorem encoded_result_url_refused :
    ∃ task, queriedAt "https://cdn.example.com/a%2Fb.mp4?expires=2000&signature=s" (cdnURL "/a/b.mp4" "/a%2Fb.mp4") = .ok task ∧
      task.status = .succeeded ∧ task.videoURL = "https://cdn.example.com/a%2Fb.mp4?expires=2000&signature=s" ∧
      storedAt task.videoURL (cdnURL "/a/b.mp4" "/a%2Fb.mp4") = .error .unsafeURL :=
  ⟨_, rfl, rfl, rfl, rfl⟩

end MinimaxProxy.Remote

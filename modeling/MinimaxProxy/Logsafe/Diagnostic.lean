import Mathlib.Data.List.Nodup
import Mathlib.Data.List.Perm.Subperm
import Mathlib.Data.String.Basic
import MinimaxProxy.Inputs.Validation

/-!
# Diagnostics of JSON documents

`logsafe/diagnostic.go`: what of a document goes to the log. Strings are Go strings that are
valid UTF-8. A Go map is a list of members with distinct keys; the order in which a loop visits
them is any, and the map that it fills is kept sorted.
-/

namespace MinimaxProxy.Logsafe
open Text

/-- What `json.Decoder` with `UseNumber` makes of a document, and what is logged. -/
inductive Value
  | null
  | bool (b : Bool)
  | number (text : String)
  | text (s : String)
  | list (items : List Value)
  | map (members : List (String × Value))

structure Library where
  /-- `json.Valid` and `Decode`. -/
  decode : List UInt8 → Option Value
  /-- `json.Marshal`. -/
  marshal : Value → Option String
  toLower : String → String
  trimSpace : String → String
  replaceAll : String → String → String → String
  /-- SHA-256, in hexadecimal. -/
  sha256 : String → String
  /-- The patterns: one that is looked for, and four whose matches are replaced. -/
  credentialDiagnosticText : String → Bool
  dataURIPattern : String → String
  httpURLPattern : String → String
  networkAddressPattern : String → String
  ipv4Pattern : String → String

/-! ## Texts -/

/-- The whole characters among the first bytes. -/
def takeBytes : Nat → List Char → List Char
  | _, [] => []
  | n, c :: rest => if c.utf8Size ≤ n then c :: takeBytes (n - c.utf8Size) rest else []

/-- The first bytes, with `?` for a broken character (`strings.ToValidUTF8`). -/
def clip : Nat → List Char → List Char
  | _, [] => []
  | n, c :: rest => if c.utf8Size ≤ n then c :: clip (n - c.utf8Size) rest else if n = 0 then [] else ['?']

/-- `truncateDiagnostic` (diagnostic.go:165). -/
def truncateDiagnostic (value : String) (limit : Nat) : String :=
  if value.utf8ByteSize ≤ limit then value else .ofList (takeBytes limit value.toList) ++ "[truncated]"

section
variable (lib : Library) (secrets : List String)

/-- `Error` (error.go:18) of a plain error, before it is cut to 512 bytes. -/
def errorText (message : String) : String :=
  lib.trimSpace (lib.ipv4Pattern (lib.networkAddressPattern (lib.httpURLPattern (lib.dataURIPattern message))))

/-- `diagnosticText` (diagnostic.go:153). -/
def diagnosticText (value : String) : String :=
  let value := secrets.foldl (fun value secret => if secret ≠ "" then lib.replaceAll value secret "[redacted]" else value) value
  if lib.credentialDiagnosticText value then "[redacted-sensitive-text]" else .ofList (clip 512 (errorText lib value).toList)

/-- `mediaDiagnostic` (diagnostic.go:140). -/
def mediaDiagnostic (value : String) : Value :=
  let scheme := lib.toLower (.ofList (((cut ':' value.toList).map (·.1)).getD value.toList))
  if scheme = "data" then .map [("encoded_chars", .number (toString value.utf8ByteSize)), ("source", .text "data_uri")]
  else .map [("redacted", .bool true), ("sha256", .text (lib.sha256 value)),
    ("source", .text (if ["http", "https", "asset", "proxy-input", "mm_file"].contains scheme then scheme else "opaque"))]

/-! ## Values -/

/-- The key without `_` and `-`, in lower case. -/
def fieldName (key : String) : String := lib.toLower (.ofList (key.toList.filter fun c => c ≠ '_' ∧ c ≠ '-'))

/-- The values under such a name are not logged at all. -/
def isHidden (name : String) : Bool :=
  (["authorization", "apikey", "token", "secret", "password", "signature", "cookie", "credential", "headers", "idempotency"].any fun word =>
    name.toList.tails.any (word.toList.isPrefixOf ·)) || ["text", "prompt", "key", "path"].contains name

def isURLName (name : String) : Bool := name = "url" || Inputs.hasSuffix "url" name

def isKept (name : String) : Bool :=
  ["id", "taskid", "requestid", "model", "status", "code", "type", "role", "resolution", "ratio", "format", "mimetype"].contains name

/-- What comes before the type of a value is looked at. -/
def guarded (key : String) (depth : Nat) (value : Value) : Value :=
  if isHidden (fieldName lib key) then .text "[redacted]" else if depth > 8 then .text "[depth-limit]" else value

/-- A string under a name that is not hidden. -/
def diagnosticString (name value : String) : Value :=
  if isURLName name || Inputs.hasPrefix "data:" (lib.toLower value) then mediaDiagnostic lib value
  else if isKept name then .text (diagnosticText lib secrets value) else .text "[redacted]"

/-- `result[key] = value`. -/
def assign (key : String) (value : Value) : List (String × Value) → List (String × Value)
  | [] => [(key, value)]
  | m :: rest => if key = m.1 then (key, value) :: rest else if key < m.1 then (key, value) :: m :: rest else m :: assign key value rest

/-- The loop over the members of an object, in the order in which it visits them. -/
def collect : List (String × Value) → List (String × Value) → List (String × Value)
  | [], result => result
  | m :: rest, result => if result.length ≥ 64 then assign "_truncated" (.bool true) result else collect rest (assign m.1 m.2 result)

/-- The order in which the members of the object at a path are visited. -/
abbrev Order := List String → List (String × Value) → List (String × Value)

/-- Every member is visited once. -/
def Order.Visits (order : Order) : Prop := ∀ path members, (order path members).Perm members

variable (order : Order)

mutual
/-- `diagnosticValue` (diagnostic.go:90) of the value at a path. -/
def diagnosticValue (path : List String) (key : String) (depth : Nat) : Value → Value
  | .map members => guarded lib key depth (.map (collect (order path (diagnosticMembers path (depth + 1) members)) []))
  | .list items => guarded lib key depth (.list (diagnosticItems path (depth + 1) 0 items))
  | .text s => guarded lib key depth (diagnosticString lib secrets (fieldName lib key) s)
  | .null => guarded lib key depth .null
  | .bool b => guarded lib key depth (.bool b)
  | .number text => guarded lib key depth (.number text)

def diagnosticMembers (path : List String) (depth : Nat) : List (String × Value) → List (String × Value)
  | [] => []
  | (key, child) :: rest => (diagnosticText lib secrets key,
    diagnosticValue (key :: path) key depth child) :: diagnosticMembers path depth rest

def diagnosticItems (path : List String) (depth index : Nat) : List Value → List Value
  | [] => []
  | child :: rest =>
    if index ≥ 32 then [.map [("remaining_items", .number (toString (rest.length + 1)))]]
    else diagnosticValue (toString index :: path) "" depth child :: diagnosticItems path depth (index + 1) rest
end

/-! ## Documents -/

/-- What is logged, apart from the length of the document. -/
inductive Diagnosis
  | oversized
  | noJSON
  | invalid
  | truncated (summary : String)
  | whole (summary : Value)

/-- The output, with the reported length. -/
def Diagnosis.output (bytes : Nat) : Diagnosis → Value
  | .oversized => .map [("bytes", .number (toString bytes)), ("omitted", .text "oversized_json")]
  | .noJSON => .map [("bytes", .number (toString bytes)), ("omitted", .text "non_json")]
  | .invalid => .map [("omitted", .text "invalid_summary")]
  | .truncated summary => .map [("bytes", .number (toString bytes)), ("summary", .text summary), ("truncated", .bool true)]
  | .whole summary => summary

def diagnose (data : List UInt8) : Diagnosis :=
  if data.length > 2 ^ 20 then .oversized
  else match lib.decode data with
    | none => .noJSON
    | some value =>
      let summary := diagnosticValue lib secrets order [] "" 0 value
      match lib.marshal summary with
      | none => .invalid
      | some encoded => if encoded.utf8ByteSize > 16 * 2 ^ 10 then .truncated (truncateDiagnostic encoded (8 * 2 ^ 10)) else .whole summary

/-- `DiagnosticJSON` (diagnostic.go:70). -/
def diagnosticJSON (data : List UInt8) : Value := (diagnose lib secrets order data).output data.length

end

/-! ## The order of the members -/

theorem assign_length (key : String) (value : Value) (result : List (String × Value)) :
    (assign key value result).length ≤ result.length + 1 := by
  induction result with
  | nil => exact Nat.le_refl _
  | cons m rest ih =>
    rw [assign]
    split
    · exact Nat.le_succ _
    split
    · exact Nat.le_refl _
    · exact Nat.succ_le_succ ih

/-- Assignments to two keys can be made in any order. -/
theorem assign_comm {a b : String × Value} (ne : a.1 ≠ b.1) (result : List (String × Value)) :
    assign b.1 b.2 (assign a.1 a.2 result) = assign a.1 a.2 (assign b.1 b.2 result) := by
  induction result with
  | nil =>
    rcases lt_or_gt_of_ne ne with h | h
    · simp [assign, ne, ne.symm, h, h.not_gt]
    · simp [assign, ne, ne.symm, h, h.not_gt]
  | cons m rest ih => grind [assign]

theorem collect_eq (members result : List (String × Value)) (small : members.length + result.length ≤ 64) :
    collect members result = members.foldl (fun result m => assign m.1 m.2 result) result := by
  induction members generalizing result with
  | nil => rfl
  | cons m rest ih =>
    have grows := assign_length m.1 m.2 result
    rw [List.length_cons] at small
    rw [collect, if_neg (by omega), ih _ (by omega), List.foldl_cons]

/-- The map does not depend on the order in which it is filled. -/
theorem collect_perm {a b : List (String × Value)} (perm : a.Perm b) (distinct : (a.map (·.1)).Nodup) (small : a.length ≤ 64) :
    collect a [] = collect b [] := by
  rw [collect_eq a [] small, collect_eq b [] (perm.length_eq ▸ small)]
  refine perm.foldl_eq' (fun x isX y isY result => ?_) []
  by_cases same : x = y
  · rw [same]
  · exact assign_comm (fun key => same (List.inj_on_of_nodup_map distinct isX isY key)) result

/-- Two loops that visit the same members, each in its order. -/
theorem collect_subset {a b a' b' : List (String × Value)} (subset : a ⊆ b) (length : a.length = b.length) (distinct : (a.map (·.1)).Nodup)
    (small : a.length ≤ 64) (order : a'.Perm a) (order' : b'.Perm b) : collect a' [] = collect b' [] := by
  have same : a.Perm b := (List.Nodup.subperm (List.Nodup.of_map _ distinct) subset).perm_of_length_le length.ge
  refine collect_perm (order.trans (same.trans order'.symm)) ?_ (order.length_eq ▸ small)
  exact (order.map _).nodup_iff.mpr distinct

/-! ## Documents that differ in their contents -/

section
variable (lib : Library) (secrets : List String) (isData : String → Bool)

mutual
/-- Two values under a key with the same shape, keys, numbers and booleans. Their strings may differ where the key is neither
    one of a URL nor one whose values are kept, unless one is a data URI. -/
def Alike (key : String) : Value → Value → Prop
  | .null, .null => True
  | .bool a, .bool b => a = b
  | .number a, .number b => a = b
  | .text a, .text b =>
    a = b ∨ (isURLName (fieldName lib key) = false ∧
      isKept (fieldName lib key) = false ∧ isData a = false ∧ isData b = false)
  | .list a, .list b => AlikeItems a b
  | .map a, .map b => a.length = b.length ∧ AlikeMembers a b
  | _, _ => False

def AlikeItems : List Value → List Value → Prop
  | [], [] => True
  | a :: as, b :: bs => Alike "" a b ∧ AlikeItems as bs
  | _, _ => False

/-- Each member of the one object has its like in the other. -/
def AlikeMembers : List (String × Value) → List (String × Value) → Prop
  | [], _ => True
  | (key, a) :: rest, bs => (∃ b, (key, b) ∈ bs ∧ Alike key a b) ∧ AlikeMembers rest bs
end

mutual
/-- Each object has at most 64 keys, which stay distinct after redaction. -/
def Tame : Value → Prop
  | .list items => TameItems items
  | .map members => members.length ≤ 64 ∧ (members.map fun m => diagnosticText lib secrets m.1).Nodup ∧ TameMembers members
  | _ => True

def TameItems : List Value → Prop
  | [] => True
  | v :: rest => Tame v ∧ TameItems rest

def TameMembers : List (String × Value) → Prop
  | [] => True
  | (_, v) :: rest => Tame v ∧ TameMembers rest
end
end

/-- The strings that `diagnosticValue` takes for data URIs. -/
def isDataURI (lib : Library) (s : String) : Bool := Inputs.hasPrefix "data:" (lib.toLower s)

section
variable {lib : Library} {secrets : List String} {first second : Order} {path path' : List String} {depth : Nat}

theorem AlikeItems.length {isData : String → Bool} : ∀ {a b : List Value}, AlikeItems lib isData a b → a.length = b.length
  | [], [], _ => rfl
  | _ :: _, _ :: _, alike => congrArg (· + 1) alike.2.length

variable (lib secrets first path depth) in
theorem diagnosticMembers_keys (members : List (String × Value)) :
    (diagnosticMembers lib secrets first path depth members).map (·.1) = members.map fun m => diagnosticText lib secrets m.1 := by
  induction members with
  | nil => rfl
  | cons m rest ih => rw [diagnosticMembers, List.map_cons, List.map_cons, ih]

theorem diagnosticMembers_length (members : List (String × Value)) :
    (diagnosticMembers lib secrets first path depth members).length = members.length := by
  simpa using congrArg List.length (diagnosticMembers_keys lib secrets first path depth members)

theorem mem_diagnosticMembers {members : List (String × Value)} {key : String} {v : Value} (mem : (key, v) ∈ members) :
    (diagnosticText lib secrets key, diagnosticValue lib secrets first (key :: path) key depth v) ∈
      diagnosticMembers lib secrets first path depth members := by
  induction members with
  | nil => cases mem
  | cons m rest ih =>
    rw [diagnosticMembers]
    rcases List.mem_cons.mp mem with rfl | later
    · exact List.mem_cons_self
    · exact List.mem_cons_of_mem _ (ih later)

theorem TameMembers.of_mem {members : List (String × Value)} (tame : TameMembers lib secrets members) {key : String} {v : Value}
    (mem : (key, v) ∈ members) : Tame lib secrets v := by
  induction members with
  | nil => cases mem
  | cons m rest ih =>
    rcases List.mem_cons.mp mem with rfl | later
    · exact tame.1
    · exact ih tame.2 later

theorem diagnosticString_alike {name a b : String} (same : a = b ∨ (isURLName name = false ∧
    isKept name = false ∧ isDataURI lib a = false ∧ isDataURI lib b = false)) :
    diagnosticString lib secrets name a = diagnosticString lib secrets name b := by
  rcases same with rfl | ⟨url, kept, isA, isB⟩
  · rfl
  · rw [isDataURI] at isA isB
    simp [diagnosticString, url, kept, isA, isB]

mutual
theorem diagnosticValue_alike (orders : first.Visits) (orders' : second.Visits) {key : String} {path path' : List String} {depth : Nat} :
    ∀ {a b : Value}, Tame lib secrets a → Tame lib secrets b → Alike lib (isDataURI lib) key a b →
      diagnosticValue lib secrets first path key depth a = diagnosticValue lib secrets second path' key depth b
  | .null, .null, _, _, _ => rfl
  | .bool _, .bool _, _, _, alike => by rw [show _ = _ from alike]; rfl
  | .number _, .number _, _, _, alike => by rw [show _ = _ from alike]; rfl
  | .text _, .text _, _, _, alike => by rw [diagnosticValue, diagnosticValue, diagnosticString_alike alike]
  | .list _, .list _, tame, tame', alike => by rw [diagnosticValue, diagnosticValue, diagnosticItems_alike orders orders' tame tame' alike]
  | .map a, .map b, ⟨small, distinct, tame⟩, ⟨_, _, tame'⟩, ⟨length, alike⟩ => by
    rw [← diagnosticMembers_keys lib secrets first path (depth + 1) a] at distinct
    rw [diagnosticValue, diagnosticValue]
    congr 2
    refine collect_subset (diagnosticMembers_alike orders orders' tame' tame alike) ?_ distinct ?_ (orders _ _) (orders' _ _)
    · rw [diagnosticMembers_length, diagnosticMembers_length, length]
    · rwa [diagnosticMembers_length]

theorem diagnosticItems_alike (orders : first.Visits) (orders' : second.Visits) {path path' : List String} {depth index : Nat} :
    ∀ {a b : List Value}, TameItems lib secrets a → TameItems lib secrets b → AlikeItems lib (isDataURI lib) a b →
      diagnosticItems lib secrets first path depth index a = diagnosticItems lib secrets second path' depth index b
  | [], [], _, _, _ => rfl
  | a :: as, b :: bs, ⟨tame, rest⟩, ⟨tame', rest'⟩, ⟨alike, others⟩ => by
    rw [diagnosticItems, diagnosticItems, AlikeItems.length others, diagnosticValue_alike orders orders' tame tame' alike,
      diagnosticItems_alike orders orders' rest rest' others]

theorem diagnosticMembers_alike (orders : first.Visits) (orders' : second.Visits) {path path' : List String} {depth : Nat}
    {b : List (String × Value)} (tame' : TameMembers lib secrets b) :
    ∀ {a : List (String × Value)}, TameMembers lib secrets a → AlikeMembers lib (isDataURI lib) a b →
      diagnosticMembers lib secrets first path depth a ⊆ diagnosticMembers lib secrets second path' depth b
  | [], _, _ => by
    rw [diagnosticMembers]
    exact List.nil_subset _
  | (key, a) :: rest, ⟨tame, others⟩, ⟨⟨b, mem, alike⟩, later⟩ => by
    rw [diagnosticMembers, List.cons_subset, diagnosticValue_alike orders orders' tame (tame'.of_mem mem) alike]
    exact ⟨mem_diagnosticMembers mem, diagnosticMembers_alike orders orders' tame' others later⟩
end

end

/-- Two documents of at most one MiB that differ only in strings that are to be redacted. -/
structure SameButContent (lib : Library) (secrets : List String) (isData : String → Bool) (data data' : List UInt8) : Prop where
  small : data.length ≤ 2 ^ 20 ∧ data'.length ≤ 2 ^ 20
  alike : ∃ v v', lib.decode data = some v ∧ lib.decode data' = some v' ∧
    Alike lib isData "" v v' ∧ Tame lib secrets v ∧ Tame lib secrets v'

/-- They are logged alike but for their lengths, in whatever order the members of their objects are visited. -/
theorem diagnosticJSON_hides_content {lib : Library} {secrets : List String} {first second : Order} {data data' : List UInt8}
    (orders : ∀ path members, (first path members).Perm members) (orders' : ∀ path members, (second path members).Perm members)
    (same : SameButContent lib secrets (isDataURI lib) data data') :
    ∃ diagnosis : Diagnosis, diagnosticJSON lib secrets first data = diagnosis.output data.length
      ∧ diagnosticJSON lib secrets second data' = diagnosis.output data'.length := by
  obtain ⟨v, v', isV, isV', alike, tame, tame'⟩ := same.alike
  refine ⟨diagnose lib secrets first data, rfl, ?_⟩
  have summaries : diagnosticValue lib secrets first [] "" 0 v = diagnosticValue lib secrets second [] "" 0 v' :=
    diagnosticValue_alike orders orders' tame tame' alike
  rw [diagnosticJSON, diagnose, diagnose, if_neg (Nat.not_lt.mpr same.small.1), if_neg (Nat.not_lt.mpr same.small.2), isV, isV']
  dsimp only
  rw [summaries]

/-- Two objects with the same URL and the same id, and two arrays. -/
def noteA : List UInt8 := "\x7b\"id\":\"at 10.0.0.1\",\"url\":\"asset://a\",\"note\":\"a\"\x7d".toUTF8.data.toList
def noteB : List UInt8 := "\x7b\"note\":\"bb\",\"id\":\"at 10.0.0.1\",\"url\":\"asset://a\"\x7d".toUTF8.data.toList
def docA : List UInt8 := "[\"a\"]".toUTF8.data.toList
def docUpper : List UInt8 := "[\"DATA:\"]".toUTF8.data.toList

def valueA : Value := .map [("id", .text "at 10.0.0.1"), ("url", .text "asset://a"), ("note", .text "a")]
def valueB : Value := .map [("note", .text "bb"), ("id", .text "at 10.0.0.1"), ("url", .text "asset://a")]

/-- What the library gives for these documents. -/
def docLibrary : Library where
  decode data :=
    if data = noteA then some valueA
    else if data = noteB then some valueB
    else if data = docA then some (.list [.text "a"])
    else if data = docUpper then some (.list [.text "DATA:"])
    else none
  marshal
    | .list [.text s] => some ("[\"" ++ s ++ "\"]")
    | .list _ => some "[\x7b\"encoded_chars\":5,\"source\":\"data_uri\"\x7d]"
    | _ => some ("\x7b\"id\":\"at [redacted-address]\",\"note\":\"[redacted]\",\"url\":\x7b\"redacted\":true,\"sha256\":\""
      ++ assetHash ++ "\",\"source\":\"asset\"\x7d\x7d")
  toLower s := .ofList (s.toList.map Char.toLower)
  trimSpace := id
  replaceAll value _ _ := value
  sha256 _ := assetHash
  credentialDiagnosticText _ := false
  dataURIPattern := id
  httpURLPattern := id
  networkAddressPattern := id
  ipv4Pattern s := if s = "at 10.0.0.1" then "at [redacted-address]" else s
where
  assetHash : String := "50d46fc36b28836bd2d47d249f36fada42a88a3df2ab62939d28ddb68b0805ff"

def inOrder : Order := fun _ members => members

/-- The objects differ in a note and in the order of their members, which the second loop visits backwards. -/
theorem diagnosticJSON_hides_content_notes : ∃ diagnosis : Diagnosis,
    diagnosticJSON docLibrary ["k"] inOrder noteA = diagnosis.output noteA.length
    ∧ diagnosticJSON docLibrary ["k"] (fun _ members => members.reverse) noteB = diagnosis.output noteB.length := by
  have tame : Tame docLibrary ["k"] valueA := ⟨by decide, by decide +kernel, trivial, trivial, trivial, trivial⟩
  have tame' : Tame docLibrary ["k"] valueB := ⟨by decide, by decide +kernel, trivial, trivial, trivial, trivial⟩
  have alike : Alike docLibrary (isDataURI docLibrary) "" valueA valueB :=
    ⟨rfl, ⟨.text "at 10.0.0.1", by simp, .inl rfl⟩, ⟨.text "asset://a", by simp, .inl rfl⟩,
      ⟨.text "bb", by simp, .inr (by decide +kernel)⟩, trivial⟩
  exact diagnosticJSON_hides_content (fun _ _ => .refl _) (fun _ members => members.reverse_perm)
    ⟨by decide +kernel, valueA, valueB, rfl, rfl, alike, tame, tame'⟩

/-- Neither string begins with `data:`, but the one is logged with its length and the other is not. -/
theorem upper_case_scheme_logged : SameButContent docLibrary [] (Inputs.hasPrefix "data:") docUpper docA
    ∧ ¬ ∃ diagnosis : Diagnosis, diagnosticJSON docLibrary [] inOrder docUpper = diagnosis.output 9
      ∧ diagnosticJSON docLibrary [] inOrder docA = diagnosis.output 5 := by
  have alike : Alike docLibrary (Inputs.hasPrefix "data:") "" (.list [.text "DATA:"]) (.list [.text "a"]) := ⟨.inr (by decide), trivial⟩
  refine ⟨⟨by decide, _, _, rfl, rfl, alike, ⟨trivial, trivial⟩, ⟨trivial, trivial⟩⟩, ?_⟩
  have upper : diagnosticJSON docLibrary [] inOrder docUpper
    = .list [.map [("encoded_chars", .number (toString 5)), ("source", .text "data_uri")]] := rfl
  have lower : diagnosticJSON docLibrary [] inOrder docA = .list [.text "[redacted]"] := rfl
  rintro ⟨diagnosis, one, two⟩
  rw [upper] at one
  rw [lower] at two
  cases diagnosis with
  | whole summary => cases one; cases two
  | _ => cases one

end MinimaxProxy.Logsafe

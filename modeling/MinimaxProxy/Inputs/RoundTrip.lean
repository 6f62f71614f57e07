import MinimaxProxy.Inputs.Spool

/-!
# What is spooled is restored

The two loops walk over the same items. For each inline item the record and the file that
spooling leaves are the ones that restoring looks for, so what comes back is the data URI of the
same payload, if the payload has a type that can be detected.
-/

namespace MinimaxProxy.Inputs
open Text

variable {item : Json} {type url : String}

/-! ## What is assumed of Go's library -/

/-- Digits only, like the ids that `newNumericID` makes. -/
def Numeric (s : String) : Prop := s ≠ "" ∧ ∀ c ∈ s.toList, c.isDigit = true

/-- Letters, digits and underscores. -/
def Plain (s : String) : Prop := s ≠ "" ∧ ∀ c ∈ s.toList, c.isAlphanum = true ∨ c = '_'

structure Library.Lawful (lib : Library) : Prop where
  parse_reference : ∀ taskID inputID, Numeric taskID → Plain inputID → lib.parse (reference taskID inputID) =
    some { scheme := "proxy-input", host := taskID, path := "/" ++ inputID, escapedPath := "/" ++ inputID }
  parse_scheme : ∀ s u, lib.parse s = some u → hasPrefix "proxy-input://" s = true → u.scheme = "proxy-input"
  equalFold_refl : ∀ s, lib.equalFold s s = true
  sha256_length : ∀ bytes, (lib.sha256 bytes).length = 32
  /-- A path without `.` or `..` elements is below the directory. -/
  rel_plain : ∀ root taskID stem mediaType, Numeric taskID → Plain stem →
    lib.rel root (taskID ++ "/" ++ stem ++ mediaExtension mediaType) = some (taskID ++ "/" ++ stem ++ mediaExtension mediaType)

/-! ## Media items -/

/-- The type and the data URI of an item with inline media. -/
def inline (item : Json) : Option (String × String) := (mediaOf item).filter fun (_, url) => hasPrefix "data:" url

/-- An item with its inline URL replaced. -/
def replaceInline (f : String → String → String) (item : Json) : Json :=
  match inline item with
  | some (type, url) => setURL type (f type url) item
  | none => item

/-- The items with every inline URL replaced. -/
def mapInline (f : Nat → String → String → String) : Nat → List Json → List Json
  | _, [] => []
  | index, item :: rest => replaceInline (f index) item :: mapInline f (index + 1) rest

/-- A request with every inline URL replaced. -/
def rewrite (f : Nat → String → String → String) (request : Json) : Json :=
  withContent request (mapInline f 0 (Json.elements (request.get "content")))

/-- What the text after the comma decodes to. -/
def mediaBytes (url : String) : Option (List UInt8) := (cutData url).bind fun p => Base64.decode p.2.toList

theorem isMedia_cases (h : isMedia type = true) : type = "image_url" ∨ type = "video_url" ∨ type = "audio_url" := by
  simpa [isMedia] using h

theorem mediaOf_some (h : mediaOf item = some (type, url)) :
    Json.text (item.get "type") = type ∧ isMedia type = true ∧ Json.text ((item.get type).bind (·.get "url")) = url := by
  simp only [mediaOf] at h
  split at h
  · rename_i media
    cases h
    exact ⟨rfl, media, rfl⟩
  · cases h

theorem inline_some :
    inline item = some (type, url) ↔ mediaOf item = some (type, url) ∧ hasPrefix "data:" url = true := by
  rw [inline, Option.filter_eq_some_iff]

/-- Reading back the URL that was put in. -/
theorem mediaOf_setURL {new : String} (h : mediaOf item = some (type, url)) (filled : url ≠ "") :
    mediaOf (setURL type new item) = some (type, new) := by
  obtain ⟨isType, media, isURL⟩ := mediaOf_some h
  have other : "type" ≠ type := by rcases isMedia_cases media with rfl | rfl | rfl <;> decide
  have read : Json.text (((setURL type new item).get type).bind (·.get "url")) = new := by
    rw [setURL, Json.get_modify_self]
    cases object : item.get type with
    | none =>
      rw [object] at isURL
      exact absurd isURL.symm filled
    | some o =>
      rw [object] at isURL
      show Json.text ((o.modify "url" _).get "url") = new
      rw [Json.get_modify_self]
      cases value : o.get "url" with
      | none =>
        rw [Option.bind_some, value] at isURL
        exact absurd isURL.symm filled
      | some v => rfl
  have same : Json.text ((setURL type new item).get "type") = type := by
    rw [setURL, Json.get_modify_of_ne _ _ other, isType]
  simp only [mediaOf, same, media, if_true, read]

theorem role_setURL (item : Json) (new : String) (media : isMedia type = true) : (setURL type new item).get "role" = item.get "role" := by
  have other : "role" ≠ type := by rcases isMedia_cases media with rfl | rfl | rfl <;> decide
  rw [setURL, Json.get_modify_of_ne _ _ other]

theorem setURL_setURL {a b : String} : setURL type b (setURL type a item) = setURL type b item := by
  simp only [setURL, Json.modify_modify]
  congr 1
  funext object
  simp [Json.modify_modify]
  rfl

/-! ## Types and names of the files -/

theorem detectMediaType_cases (payload : List UInt8) :
    detectMediaType payload ∈ ["", "image/png", "image/jpeg", "image/webp", "audio/wav", "video/mp4", "audio/mpeg"] := by
  unfold detectMediaType
  dsimp only
  repeat' split
  all_goals decide

theorem normalize_detected (payload : List UInt8) : normalizeMediaType (detectMediaType payload) = detectMediaType payload := by
  have known := detectMediaType_cases payload
  generalize detectMediaType payload = detected at known
  revert detected
  decide

theorem mediaExtension_cases (mediaType : String) :
    mediaExtension mediaType ∈ [".jpg", ".png", ".webp", ".wav", ".mp3", ".mp4", ".bin"] := by
  unfold mediaExtension
  dsimp only
  repeat' split
  all_goals decide

theorem pathExt_append (path extension : String)
    (isExt : extension ∈ [".jpg", ".png", ".webp", ".wav", ".mp3", ".mp4", ".bin"]) : pathExt (path ++ extension) = extension := by
  obtain ⟨tail, rfl, plain⟩ : ∃ tail, extension = .ofList ('.' :: tail) ∧ tail.all (fun c => c ≠ '.' ∧ c ≠ '/') = true := by
    refine ⟨extension.toList.drop 1, ?_⟩
    revert extension
    decide
  have plain := List.all_eq_true.mp plain
  have reversed : (path ++ String.ofList ('.' :: tail)).toList.reverse = tail.reverse ++ '.' :: path.toList.reverse := by simp
  have spans : (tail.reverse ++ '.' :: path.toList.reverse).span (fun c => decide (c ≠ '.' ∧ c ≠ '/')) =
      (tail.reverse, '.' :: path.toList.reverse) := by
    rw [List.span_eq_takeWhile_dropWhile, List.takeWhile_append_of_pos (by simpa using plain),
      List.dropWhile_append_of_pos (by simpa using plain)]
    simp
  rw [pathExt, reversed, spans]
  simp

theorem hexDigit_plain : ∀ n < 16, (hexDigit n).isAlphanum = true := by decide +kernel

theorem hex_plain {bytes : List UInt8} : ∀ c ∈ hex bytes, c.isAlphanum = true := by
  intro c mem
  obtain ⟨b, -, mem⟩ := List.mem_flatMap.mp mem
  have lt := b.toNat_lt
  simp only [List.mem_cons, List.not_mem_nil, or_false] at mem
  rcases mem with high | low
  · rw [high]
    exact hexDigit_plain _ (by omega)
  · rw [low]
    exact hexDigit_plain _ (by omega)

theorem hex_length {bytes : List UInt8} : (hex bytes).length = 2 * bytes.length := by
  simp [hex, List.length_flatMap, Nat.mul_comm]

section
variable {lib : Library}

theorem stableInputID_plain (lib : Library) (taskID : String) (index : Nat) (source : String) :
    Plain (stableInputID lib taskID index source) := by
  rw [stableInputID]
  generalize lib.sha256 (inputSource taskID index source) = digest
  refine ⟨by simp, fun c mem => ?_⟩
  rw [String.toList_append, String.toList_ofList, String.toList_ofList] at mem
  rcases List.mem_append.mp mem with lead | rest
  · have letters : ['i', 'n', 'p', 'u', 't', '_'].all (fun c => c.isAlphanum || c == '_') = true := by decide
    simpa using List.all_eq_true.mp letters c lead
  · exact .inl (hex_plain c rest)

theorem stableInputID_length (lawful : lib.Lawful) {taskID : String} {index : Nat} {source : String} :
    (stableInputID lib taskID index source).toList.length = 38 := by
  rw [stableInputID, String.toList_append, String.toList_ofList, String.toList_ofList,
    List.length_append, hex_length, List.length_take, lawful.sha256_length]
  rfl

/-- What a decoded data URI is made of. -/
structure Decoded (lib : Library) (contentType url : String) (d : DecodedDataURI) : Prop where
  bytes : mediaBytes url = some d.payload
  filled : d.payload ≠ []
  mediaType : ∃ declared, d.mediaType = chooseMediaType contentType declared (detectMediaType d.payload)
  chosen : d.mediaType ≠ ""
  extension : d.extension = mediaExtension d.mediaType
  sha256 : d.sha256 = .ofList (hex (lib.sha256 d.payload))

theorem decodeDataURI_ok {contentType : String} {d : DecodedDataURI} (h : decodeDataURI lib contentType url = .ok d) :
    Decoded lib contentType url d := by
  rw [decodeDataURI] at h
  split at h
  · cases h
  rename_i header encoded isCut
  split at h
  · cases h
  split at h
  · cases h
  rename_i payload decoded
  split at h
  · cases h
  rename_i filled
  dsimp only at h
  split at h
  · cases h
  rename_i chosen
  cases h
  exact ⟨by rw [mediaBytes, isCut]; exact decoded, filled, ⟨_, rfl⟩, chosen, rfl, rfl⟩

/-- The type of a payload that is detected is the one that is stored. -/
theorem Decoded.mediaType_eq {contentType : String} {d : DecodedDataURI} (h : Decoded lib contentType url d)
    (detected : detectMediaType d.payload ≠ "") : d.mediaType = detectMediaType d.payload := by
  obtain ⟨declared, isType⟩ := h.mediaType
  rw [chooseMediaType, if_pos detected] at isType
  split at isType
  · rw [isType, normalize_detected]
  · exact absurd isType h.chosen

/-! ## One item -/

variable {root taskID : String} {faults : Faults} {index : Nat} {item item' : Json} {disk disk' : Disk} {files : List InputSpoolFile}

/-- What spooling does with an inline item. -/
structure ItemSpooled (lib : Library) (taskID : String) (index : Nat) (item : Json) (disk : Disk) (type url : String)
    (d : DecodedDataURI) (item' : Json) (files : List InputSpoolFile) (disk' : Disk) : Prop where
  isInline : inline item = some (type, url)
  decodes : decodeDataURI lib type url = .ok d
  replaced : item' = setURL type (reference taskID (stableInputID lib taskID index url)) item
  recorded : files = [spoolFile lib taskID index type (roleOf item) url d]
  written : disk' = Function.update (Function.update disk
    ((spoolFile lib taskID index type (roleOf item) url d).relativePath ++ ".part") none)
    (spoolFile lib taskID index type (roleOf item) url d).relativePath (some d.payload)

theorem prepareItem_ok (h : prepareItem lib root faults taskID index item disk = (.ok (item', files), disk')) :
    (inline item = none ∧ item' = item ∧ files = [] ∧ disk' = disk) ∨
      ∃ type url d, ItemSpooled lib taskID index item disk type url d item' files disk' := by
  have skipped (out : (Except.ok (item, ([] : List InputSpoolFile)), disk) = (Except.ok (ε := String) (item', files), disk')) :
      item' = item ∧ files = [] ∧ disk' = disk := by
    cases out
    exact ⟨rfl, rfl, rfl⟩
  rw [prepareItem] at h
  split at h
  · cases h
  split at h
  · rename_i noMedia
    exact .inl ⟨by rw [inline, noMedia]; rfl, skipped h⟩
  rename_i type url media
  split at h
  · rename_i data
    split at h
    · cases h
    rename_i file mid wrote
    cases h
    rw [writeDataURI] at wrote
    split at wrote
    · cases wrote
    rename_i d decoded
    dsimp only at wrote
    split at wrote
    · cases wrote
    split at wrote
    · cases wrote
    · cases wrote
    · cases wrote
    cases wrote
    exact .inr ⟨type, url, d, inline_some.mpr ⟨media, data⟩, decoded, rfl, rfl, rfl⟩
  · rename_i data
    refine .inl ⟨?_, skipped h⟩
    rw [inline, media, Option.filter_some, if_neg data]

theorem safeUnder_spooled (lawful : lib.Lawful) (numeric : Numeric taskID)
    {stem : String} (plain : Plain stem) (directory mediaType : String) :
    safeUnder lib directory (taskID ++ "/" ++ stem ++ mediaExtension mediaType) = true := by
  rw [safeUnder, lawful.rel_plain directory taskID stem mediaType numeric plain]
  obtain ⟨c, rest, isTask⟩ := List.exists_cons_of_ne_nil (l := taskID.toList) fun empty => numeric.1 (String.toList_eq_nil_iff.mp empty)
  have digit := numeric.2 c (by rw [isTask]; exact List.mem_cons_self)
  have path : (taskID ++ "/" ++ stem ++ mediaExtension mediaType).toList =
      c :: (rest ++ '/' :: stem.toList ++ (mediaExtension mediaType).toList) := by
    simp [isTask]
  have dot : c ≠ '.' := by rintro rfl; cases digit
  have slash : c ≠ '/' := by rintro rfl; cases digit
  have whole : taskID ++ "/" ++ stem ++ mediaExtension mediaType ≠ "." := fun same => by
    have head := congrArg (fun s : String => s.toList.head?) same
    rw [path] at head
    exact dot (Option.some.inj head)
  simp [whole, hasPrefix, path, List.isPrefixOf, Ne.symm dot, Ne.symm slash]

theorem parseReference_spooled (lawful : lib.Lawful) (numeric : Numeric taskID) {inputID : String} (plain : Plain inputID) :
    parseProxyInputReference lib (reference taskID inputID) taskID = .ok inputID := by
  have slash : '/' ∉ inputID.toList := fun mem => by
    rcases plain.2 _ mem with alnum | same
    · cases alnum
    · cases same
  rw [parseProxyInputReference, lawful.parse_reference taskID inputID numeric plain]
  simp [trimStart, trimPrefix, plain.1, slash]

variable {r : Restorer} {type role url : String} {d : DecodedDataURI}

/-- A file that is as it was written is read, unless its type is not detected. -/
theorem readVerified_spooled (lawful : lib.Lawful) (numeric : Numeric taskID) (decoded : Decoded lib type url d)
    (small : d.payload.length ≤ maxDecodedBytes type)
    (contents : r.files.contents (spoolFile lib taskID index type role url d).relativePath = some d.payload)
    (reads : r.files.reads (spoolFile lib taskID index type role url d).relativePath = true) :
    readVerified lib r.root r.files (spoolFile lib taskID index type role url d) =
      if detectMediaType d.payload = "" then .error "输入暂存文件类型不匹配" else .ok d.payload := by
  have safe := safeUnder_spooled lawful numeric (stableInputID_plain lib taskID index url) r.root d.mediaType
  have ext := pathExt_append (taskID ++ "/" ++ stableInputID lib taskID index url) d.extension (decoded.extension ▸ mediaExtension_cases _)
  rw [← decoded.extension] at safe
  have present : d.payload.length ≠ 0 := fun none => decoded.filled (List.length_eq_zero_iff.mp none)
  have fits : ¬ d.payload.length > maxDecodedBytes type := Nat.not_lt.mpr small
  have digest : lib.equalFold (.ofList (hex (lib.sha256 d.payload))) d.sha256 = true := by
    rw [decoded.sha256]
    exact lawful.equalFold_refl _
  simp only [spoolFile] at contents reads
  simp only [readVerified, spoolFile, safe, ext, contents, reads, present,
    fits, digest, normalize_detected, Bool.not_true, Bool.false_eq_true,
    if_false, ne_eq, not_true_eq_false, or_self]
  by_cases detected : detectMediaType d.payload = ""
  · rw [if_pos (.inl detected), if_pos detected]
  · have same : normalizeMediaType d.mediaType = detectMediaType d.payload := by
      rw [decoded.mediaType_eq detected, normalize_detected]
    rw [if_neg, if_neg detected]
    rintro (none | other)
    · exact detected none
    · exact other same.symm

/-- What validation leaves: inline items have a role and are not too big, and no item is a
reference. -/
structure Acceptable (item : Json) : Prop where
  role : ∀ type url, inline item = some (type, url) → Json.text (item.get "role") ≠ ""
  small : ∀ type url bytes, inline item = some (type, url) → mediaBytes url = some bytes → bytes.length ≤ maxDecodedBytes type
  unreferenced : ∀ type url, mediaOf item = some (type, url) → hasPrefix "proxy-input://" url = false

/-- What the assumptions on the files and their records are. -/
structure Undisturbed (r : Restorer) (root : String) (files : List InputSpoolFile) (disk : Disk) : Prop where
  root : r.root = root
  live : ∀ i, r.ctx i = none
  stored : ∀ f ∈ files, r.getInputSpoolFile f.taskID f.id = some f
  unmodified : ∀ f ∈ files, r.files.contents f.relativePath = disk f.relativePath
  reads : ∀ f ∈ files, r.files.reads f.relativePath = true

theorem Undisturbed.part {more : List InputSpoolFile} (undisturbed : Undisturbed r root more disk) (part : files ⊆ more) :
    Undisturbed r root files disk :=
  ⟨undisturbed.root, undisturbed.live, fun f mem => undisturbed.stored f (part mem), fun f mem => undisturbed.unmodified f (part mem),
    fun f mem => undisturbed.reads f (part mem)⟩

/-- The payload of an inline item has a type that is detected. -/
def Detected (item : Json) : Prop :=
  ∀ type url bytes, inline item = some (type, url) → mediaBytes url = some bytes → detectMediaType bytes ≠ ""

/-- The data URI that `Restore` makes of one that was spooled. -/
def restoredURL (lib : Library) (type url : String) : String :=
  match decodeDataURI lib type url with
  | .ok d => dataURI d.mediaType d.payload
  | .error _ => url

/-- The reference that stands for a data URI. -/
def spooledURL (lib : Library) (taskID : String) (index : Nat) (url : String) : String :=
  reference taskID (stableInputID lib taskID index url)

theorem restoreItem_kept (live : r.ctx index = none) (acceptable : Acceptable item) (none : inline item = none) (out : Json × Bool) :
    restoreItem lib r taskID index item = .ok out ↔ Detected item ∧ out = (replaceInline (restoredURL lib) item, (inline item).isSome) := by
  have vacuous : Detected item := fun type url _ isInline => nomatch none.symm.trans isInline
  have same : restoreItem lib r taskID index item = .ok (item, false) := by
    rw [restoreItem, live]
    cases media : mediaOf item with
    | none => rfl
    | some m => simp only [acceptable.unreferenced m.1 m.2 media, Bool.not_false, if_true]
  simp [same, replaceInline, none, vacuous, eq_comm]

section
variable (lawful : lib.Lawful) (numeric : Numeric taskID)
  (configured : lib.trimSpace root ≠ "") (undisturbed : Undisturbed r root files disk')
include lawful numeric configured undisturbed

/-- A reference to a stored file of a payload whose type is detected is replaced, others are refused. -/
theorem restoreItem_spooled (h : ItemSpooled lib taskID index item disk type url d item' files disk') (acceptable : Acceptable item) :
    restoreItem lib r taskID index item' =
      if detectMediaType d.payload = "" then .error "输入暂存文件类型不匹配" else .ok (setURL type (dataURI d.mediaType d.payload) item, true) := by
  obtain ⟨media, data⟩ := inline_some.mp h.isInline
  have filled : url ≠ "" := by rintro rfl; cases data
  have mine : spoolFile lib taskID index type (roleOf item) url d ∈ files := by rw [h.recorded]; exact List.mem_cons_self
  have isRole : roleOf item = Json.text (item.get "role") := by rw [roleOf]; exact if_neg (acceptable.role type url h.isInline)
  have decoded := decodeDataURI_ok h.decodes
  have read := readVerified_spooled lawful numeric decoded (acceptable.small type url d.payload h.isInline decoded.bytes)
    (by rw [undisturbed.unmodified _ mine, h.written, Function.update_self]) (undisturbed.reads _ mine)
  have isRef : hasPrefix "proxy-input://" (reference taskID (stableInputID lib taskID index url)) = true := by
    simp [hasPrefix, reference, String.toList_append]
  rw [← undisturbed.root] at configured
  rw [restoreItem, undisturbed.live, h.replaced, mediaOf_setURL media filled]
  simp only [isRef, Bool.not_true, Bool.false_eq_true, if_false, configured,
    parseReference_spooled lawful numeric (stableInputID_plain lib taskID index url)]
  have known : r.getInputSpoolFile taskID (stableInputID lib taskID index url) =
      some (spoolFile lib taskID index type (roleOf item) url d) :=
    undisturbed.stored _ mine
  have matching : (spoolFile lib taskID index type (roleOf item) url d).role =
      Json.text ((setURL type (reference taskID (stableInputID lib taskID index url)) item).get "role") := by
    rw [role_setURL item _ (mediaOf_some media).2.1]
    exact isRole
  simp only [bind, Except.bind, known]
  rw [if_neg (by simp [matching]; simp [spoolFile]), read]
  by_cases detected : detectMediaType d.payload = ""
  · rw [if_pos detected, if_pos detected]
  · rw [if_neg detected, if_neg detected]
    show Except.ok (setURL type _ (setURL type _ item), true) = _
    rw [setURL_setURL]
    rfl

/-- One item, spooled and restored. -/
theorem restoreItem_prepared (h : ItemSpooled lib taskID index item disk type url d item' files disk')
    (acceptable : Acceptable item) (out : Json × Bool) :
    restoreItem lib r taskID index item' = .ok out ↔ Detected item ∧
      out = (replaceInline (restoredURL lib) item, (inline item).isSome) := by
  have bytes := (decodeDataURI_ok h.decodes).bytes
  have detects : Detected item ↔ detectMediaType d.payload ≠ "" := by
    refine ⟨fun all => all type url d.payload h.isInline bytes, fun one type' url' payload isInline isBytes => ?_⟩
    cases h.isInline.symm.trans isInline
    rwa [← Option.some.inj (bytes.symm.trans isBytes)]
  have same : restoredURL lib type url = dataURI d.mediaType d.payload := by rw [restoredURL, h.decodes]
  rw [restoreItem_spooled lawful numeric configured undisturbed h acceptable, detects, replaceInline, h.isInline]
  by_cases undetected : detectMediaType d.payload = ""
  · simp [undetected]
  · simp [undetected, same, eq_comm]

end

/-! ## All items -/

/-- Every record names its own file. -/
structure Record (taskID : String) (index : Nat) (f : InputSpoolFile) : Prop where
  owner : f.taskID = taskID
  later : index ≤ f.contentIndex
  length : f.id.toList.length = 38
  path : f.relativePath = taskID ++ "/" ++ f.id ++ f.extension

theorem Record.earlier {f : InputSpoolFile} (record : Record taskID (index + 1) f) : Record taskID index f :=
  ⟨record.owner, Nat.le_of_succ_le record.later, record.length, record.path⟩

theorem Record.apart {i j : Nat} {f g : InputSpoolFile} (first : Record taskID i f) (second : Record taskID j g) (other : f.id ≠ g.id) :
    f.relativePath ≠ g.relativePath ∧ f.relativePath ≠ g.relativePath ++ ".part" := by
  have apart (tail : String) : f.relativePath ≠ taskID ++ "/" ++ g.id ++ tail := fun same => by
    rw [first.path] at same
    have chars := congrArg String.toList same
    simp only [String.toList_append, List.append_assoc] at chars
    have rest := List.append_cancel_left (List.append_cancel_left chars)
    exact other (String.toList_inj.mp (List.append_inj rest (first.length.trans second.length.symm)).1)
  refine ⟨by rw [second.path]; exact apart _, ?_⟩
  rw [second.path, String.append_assoc]
  exact apart _

/-- A run of the loop of `PrepareRequest` that returns. -/
inductive Prepared (lib : Library) (taskID : String) (disk' : Disk) : Nat → List Json → Disk → List Json → List InputSpoolFile → Prop
  | nil {index : Nat} : Prepared lib taskID disk' index [] disk' [] []
  | kept {index : Nat} {item : Json} {items items' : List Json} {disk : Disk} {files : List InputSpoolFile} (none : inline item = none)
      (rest : Prepared lib taskID disk' (index + 1) items disk items' files) :
      Prepared lib taskID disk' index (item :: items) disk (item :: items') files
  | spooled {index : Nat} {item item' : Json} {items items' : List Json}
    {disk mid : Disk} {own files : List InputSpoolFile} {type url : String}
      {d : DecodedDataURI} (first : ItemSpooled lib taskID index item disk type url d item' own mid)
      (rest : Prepared lib taskID disk' (index + 1) items mid items' files) :
      Prepared lib taskID disk' index (item :: items) disk (item' :: items') (own ++ files)

variable {items items' : List Json}

theorem prepareItems_ok (h : prepareItems lib root faults taskID index items disk = (.ok (items', files), disk')) :
    Prepared lib taskID disk' index items disk items' files := by
  induction items generalizing index disk items' files with
  | nil =>
    cases h
    exact .nil
  | cons item items ih =>
    rw [prepareItems] at h
    split at h
    · cases h
    rename_i first firstFiles mid isFirst
    split at h
    · cases h
    rename_i rest others last isRest
    cases h
    rcases prepareItem_ok isFirst with ⟨none, rfl, rfl, rfl⟩ | ⟨type, url, d, spooled⟩
    · exact .kept none (ih isRest)
    · exact .spooled spooled (ih isRest)

section
variable (h : Prepared lib taskID disk' index items disk items' files)
include h

theorem Prepared.records (lawful : lib.Lawful) : ∀ f ∈ files, Record taskID index f := by
  induction h with
  | nil => nofun
  | kept _ _ ih => exact fun f mem => (ih f mem).earlier
  | spooled first _ ih =>
    rw [first.recorded]
    exact List.forall_mem_cons.mpr ⟨⟨rfl, Nat.le_refl _, stableInputID_length lawful, rfl⟩, fun f mem => (ih f mem).earlier⟩

/-- Files that no record names are kept. -/
theorem Prepared.keeps {path : String} (other : ∀ f ∈ files, path ≠ f.relativePath ∧
    path ≠ f.relativePath ++ ".part") : disk' path = disk path := by
  induction h with
  | nil => rfl
  | kept _ _ ih => exact ih other
  | spooled first _ ih =>
    rw [first.recorded] at other
    obtain ⟨⟨final, part⟩, others⟩ := List.forall_mem_cons.mp other
    rw [ih others, first.written, Function.update_of_ne final, Function.update_of_ne part]

theorem Prepared.mapInline : items' = mapInline (fun i _ url => spooledURL lib taskID i url) index items := by
  induction h with
  | nil => rfl
  | kept none _ ih => rw [Inputs.mapInline, ← ih, replaceInline, none]
  | spooled first _ ih =>
    rw [Inputs.mapInline, ← ih, replaceInline, first.isInline, first.replaced]
    rfl

/-- Every inline item that is spooled decodes. -/
theorem Prepared.decodes : ∀ item ∈ items, ∀ type url, inline item = some (type, url) → ∃ d, decodeDataURI lib type url = .ok d := by
  induction h with
  | nil => nofun
  | kept none _ ih => exact List.forall_mem_cons.mpr ⟨fun _ _ isInline => (nomatch none.symm.trans isInline), ih⟩
  | spooled first _ ih =>
    refine List.forall_mem_cons.mpr ⟨fun type url isInline => ?_, ih⟩
    cases first.isInline.symm.trans isInline
    exact ⟨_, first.decodes⟩

end

theorem restoreItems_cons {out : List Json × Bool} : restoreItems lib r taskID index (item :: items) = .ok out ↔
    ∃ first rest, restoreItem lib r taskID index item = .ok first ∧ restoreItems lib r taskID (index + 1) items = .ok rest ∧
      out = (first.1 :: rest.1, first.2 || rest.2) := by
  rw [restoreItems]
  cases restoreItem lib r taskID index item with
  | error e => simp [bind, Except.bind]
  | ok first =>
    cases restoreItems lib r taskID (index + 1) items with
    | error e => simp [bind, Except.bind]
    | ok rest => simp [bind, Except.bind, pure, Except.pure, eq_comm]

/-- What the loop of `Restore` makes of what the loop of `PrepareRequest` left. -/
theorem restoreItems_prepared (lawful : lib.Lawful) (numeric : Numeric taskID) (configured : lib.trimSpace root ≠ "")
    (undisturbed : Undisturbed r root files disk') (acceptable : ∀ item ∈ items, Acceptable item)
    (h : Prepared lib taskID disk' index items disk items' files) (out : List Json × Bool) :
    restoreItems lib r taskID index items' = .ok out ↔
      (∀ item ∈ items, Detected item) ∧
        out = (mapInline (fun _ => restoredURL lib) index items, items.any fun item => (inline item).isSome) := by
  induction h generalizing out with
  | nil => simp [restoreItems, mapInline, eq_comm]
  | @kept index item items items' disk files none rest ih =>
    obtain ⟨here, there⟩ := List.forall_mem_cons.mp acceptable
    simp [restoreItems_cons, restoreItem_kept (undisturbed.live index) here none, ih undisturbed there, mapInline, and_assoc]
  | @spooled index item item' items items' disk mid own files type url d first rest ih =>
    obtain ⟨here, there⟩ := List.forall_mem_cons.mp acceptable
    have mine := undisturbed.part (List.subset_append_left own files)
    have others := undisturbed.part (List.subset_append_right own files)
    have kept : Undisturbed r root own mid := { mine with unmodified := fun f mem => ?_ }
    · simp [restoreItems_cons, restoreItem_prepared lawful numeric configured kept first here, ih others there, mapInline, and_assoc]
    -- The later files have other names, so the first one is still there.
    rw [mine.unmodified f mem]
    rw [first.recorded] at mem
    obtain rfl := List.mem_singleton.mp mem
    refine rest.keeps fun g isLater => ?_
    have later := rest.records lawful g isLater
    refine Record.apart ⟨rfl, Nat.le_refl _, stableInputID_length lawful, rfl⟩ later fun same => ?_
    have found := mine.stored _ (first.recorded ▸ List.mem_cons_self)
    rw [same, show (spoolFile lib taskID index type (roleOf item) url d).taskID =
      g.taskID from later.owner.symm, others.stored g isLater] at found
    have after := later.later
    rw [Option.some.inj found] at after
    exact absurd after (Nat.not_succ_le_self _)

end

/-! ## What validation leaves -/

section
variable {lib : Library} {c c' : GenerationContent}

theorem get_cons {key key' : String} {value : Json} (rest : List (String × Json)) :
    (Json.obj ((key, value) :: rest)).get key' = if key = key' then some value else (Json.obj rest).get key' := by
  simp only [Json.get, Json.members, List.find?_cons]
  by_cases same : key = key'
  · simp [same]
  · rw [beq_false_of_ne same, if_neg same]

theorem get_member {key key' : String} {value : Option Json} (rest : List (String × Json)) :
    (Json.obj (member key value ++ rest)).get key' =
      if key = key' then value.or ((Json.obj rest).get key') else (Json.obj rest).get key' := by
  cases value with
  | none => simp [member]
  | some v => exact get_cons rest

theorem text_filled {s : String} : Json.text (filled s) = s := by
  rw [filled]
  split
  · rename_i empty
    rw [empty]
    rfl
  · rfl

theorem get_last {key key' : String} {value : Option Json} :
    (Json.obj (member key value)).get key' = if key = key' then value else none := by
  cases value with
  | none => simp [member, Json.get, Json.members]
  | some v => exact get_cons []

theorem contentJson_members : contentJson c =
    .obj (("type", .str c.type) :: (member "text" (filled c.text) ++ (member "image_url" (c.imageURL.map mediaJson) ++
      (member "video_url" (c.videoURL.map mediaJson) ++ (member "audio_url" (c.audioURL.map mediaJson) ++
      member "role" (filled c.role)))))) := by
  simp [contentJson]

theorem contentJson_type : Json.text ((contentJson c).get "type") = c.type := by
  rw [contentJson_members, get_cons, if_pos rfl]
  rfl

theorem contentJson_role : Json.text ((contentJson c).get "role") = c.role := by
  simp [contentJson_members, get_cons, get_member, get_last, text_filled]

theorem contentJson_image : (contentJson c).get "image_url" = c.imageURL.map mediaJson := by
  simp [contentJson_members, get_cons, get_member, get_last]

theorem contentJson_video : (contentJson c).get "video_url" = c.videoURL.map mediaJson := by
  simp [contentJson_members, get_cons, get_member, get_last]

theorem contentJson_audio : (contentJson c).get "audio_url" = c.audioURL.map mediaJson := by
  simp [contentJson_members, get_cons, get_member, get_last]

/-- The media that the loops read is the media of the item. -/
theorem mediaOf_contentJson :
    mediaOf (contentJson c) = if isMedia c.type then some (c.type, (c.media.map (·.url)).getD "") else none := by
  have read (m : Option MediaURL) : Json.text ((m.map mediaJson).bind (·.get "url")) = (m.map (·.url)).getD "" := by
    cases m with
    | none => rfl
    | some m => rfl
  simp only [mediaOf, contentJson_type]
  split
  · rename_i media
    rcases isMedia_cases media with same | same | same <;> rw [same] <;>
      simp [GenerationContent.media, same, contentJson_image, contentJson_video, contentJson_audio, read]
  · rfl

/-- What a checked source is: an inline one is not too big, and none is a reference. -/
structure Checked (maxBytes : Nat) (url : String) : Prop where
  small : ∀ bytes, hasPrefix "data:" url = true → mediaBytes url = some bytes → bytes.length ≤ maxBytes
  unreferenced : hasPrefix "proxy-input://" url = false

theorem hasPrefix_excludes {p q s : String} {a b : Char} {as bs : List Char} (isP : p.toList = a :: as) (isQ : q.toList = b :: bs)
    (differ : a ≠ b) (h : hasPrefix p s = true) : hasPrefix q s = false := by
  rw [hasPrefix, isP] at h
  rw [hasPrefix, isQ]
  cases isS : s.toList with
  | nil =>
    rw [isS] at h
    cases h
  | cons c rest =>
    rw [isS, List.isPrefixOf_cons_cons, Bool.and_eq_true, beq_iff_eq] at h
    rw [List.isPrefixOf_cons_cons, ← h.1, beq_false_of_ne (Ne.symm differ), Bool.false_and]

theorem parseDataURI_checked {value label unit : String} {maxBytes : Nat} {supported : List (String × String)} {found : String × List UInt8}
    (h : parseDataURI lib value label maxBytes unit supported = some (.ok found)) : Checked maxBytes value := by
  rw [parseDataURI] at h
  split at h
  · cases h
  rename_i data
  have data : hasPrefix "data:" value = true := by simpa using data
  refine ⟨fun bytes _ isBytes => ?_, hasPrefix_excludes rfl rfl (by decide) data⟩
  have h := Option.some.inj h
  dsimp only at h
  split at h
  · cases h
  rename_i header encoded isCut
  split at h
  · cases h
  split at h
  · cases h
  split at h
  · cases h
  split at h
  · cases h
  split at h
  · cases h
  split at h
  · cases h
  rename_i decoded isDecoded
  split at h
  · cases h
  rename_i fits
  rw [mediaBytes, isCut, Option.bind_some, isDecoded] at isBytes
  rw [← Option.some.inj isBytes]
  exact Nat.not_lt.mp fits

theorem parseDataURI_none {value label unit : String} {maxBytes : Nat} {supported : List (String × String)}
    (h : parseDataURI lib value label maxBytes unit supported = none) : hasPrefix "data:" value = false := by
  rw [parseDataURI] at h
  split at h
  · rename_i data
    simpa using data
  · cases h

theorem validateURL_checked (lawful : lib.Lawful) {value message : String} (external : hasPrefix "data:" value = false)
    (h : validateURL lib value message = .ok ()) {maxBytes : Nat} : Checked maxBytes value := by
  refine ⟨fun bytes data => absurd data (by rw [external]; nofun), ?_⟩
  rw [validateURL] at h
  split at h
  · rename_i file
    exact hasPrefix_excludes rfl rfl (by decide) file
  split at h
  · cases h
  rename_i parsed isParsed
  split at h
  · cases h
  rename_i good
  by_contra reference
  have scheme := lawful.parse_scheme value parsed isParsed (by simpa using reference)
  refine good (.inr (.inl ?_))
  rw [scheme]
  decide

theorem validateImageSource_checked (lawful : lib.Lawful) {value : String} (h : validateImageSource lib value = .ok ()) :
    Checked maxDecodedImageBytes value := by
  rw [validateImageSource] at h
  split at h
  · rename_i result isData
    cases result with
    | error e => cases h
    | ok found => exact parseDataURI_checked isData
  · rename_i external
    exact validateURL_checked lawful (parseDataURI_none external) h

theorem validateVideoSource_checked (lawful : lib.Lawful) {value : String} (h : validateVideoSource lib value = .ok ()) :
    Checked maxDecodedVideoBytes value := by
  rw [validateVideoSource] at h
  split at h
  · rename_i result isData
    cases result with
    | error e => cases h
    | ok found => exact parseDataURI_checked isData
  · rename_i external
    exact validateURL_checked lawful (parseDataURI_none external) h

theorem validateAudioSource_checked (lawful : lib.Lawful) {value : String} (h : validateAudioSource lib value = .ok ()) :
    Checked maxDecodedAudioBytes value := by
  rw [validateAudioSource, parseAudioDataURI] at h
  cases isData : parseDataURI lib value "音频" maxDecodedAudioBytes "单段"
      [("audio/wav", "audio/wav"), ("audio/mpeg", "audio/mpeg"), ("audio/mp3", "audio/mp3")] with
  | none =>
    rw [isData] at h
    exact validateURL_checked lawful (parseDataURI_none isData) h
  | some result =>
    rw [isData] at h
    cases result with
    | error e => cases h
    | ok found => exact parseDataURI_checked isData

/-- An item whose media is checked for its type. -/
theorem acceptable_of_checked (url : String) (media : isMedia c.type = true) (isURL : (c.media.map (·.url)).getD "" = url)
    (role : c.role ≠ "") (checked : Checked (maxDecodedBytes c.type) url) : Acceptable (contentJson c) := by
  have read : mediaOf (contentJson c) = some (c.type, url) := by rw [mediaOf_contentJson, if_pos media, isURL]
  have same {type url' : String} (isInline : inline (contentJson c) = some (type, url')) :
      type = c.type ∧ url' = url ∧ hasPrefix "data:" url = true := by
    obtain ⟨isMedia, data⟩ := inline_some.mp isInline
    cases isMedia.symm.trans read
    exact ⟨rfl, rfl, data⟩
  refine ⟨fun type url' _ => by rw [contentJson_role]; exact role, fun type url' bytes isInline isBytes => ?_, fun type url' isMedia => ?_⟩
  · obtain ⟨rfl, rfl, data⟩ := same isInline
    exact checked.small bytes data isBytes
  · cases isMedia.symm.trans read
    exact checked.unreferenced

theorem countImage_role {role : String} {n n' : Counts} (h : countImage role n = .ok n') : role ≠ "" := by
  rintro rfl
  cases h

section
variable {n n' : Counts}

theorem validateText_acceptable (isText : c.type = "text") (h : validateText lib c n = .ok (c', n')) : Acceptable (contentJson c') := by
  rw [validateText] at h
  split at h
  · cases h
  split at h
  · cases h
  cases h
  have none : mediaOf (contentJson c) = none := by rw [mediaOf_contentJson, isText]; rfl
  have nowhere : inline (contentJson c) = Option.none := by rw [inline, none]; rfl
  exact ⟨fun _ _ isInline => absurd isInline (by rw [nowhere]; nofun), fun _ _ _ isInline => absurd isInline (by rw [nowhere]; nofun),
    fun _ _ media => absurd media (by rw [none]; nofun)⟩

theorem validateImage_acceptable (lawful : lib.Lawful) (isImage : c.type = "image_url") (h : validateImage lib c n = .ok (c', n')) :
    Acceptable (contentJson c') := by
  rw [validateImage] at h
  split at h
  · cases h
  rename_i image isURL
  split at h
  · cases h
  simp only [except_bind_ok] at h
  obtain ⟨_, source, m, counted, h⟩ := h
  cases h
  refine acceptable_of_checked image.url (by rw [isImage]; rfl)
    (by simp [GenerationContent.media, isImage, isURL]) (countImage_role counted) ?_
  rw [isImage]
  exact validateImageSource_checked lawful source

theorem validateVideo_acceptable (lawful : lib.Lawful) (isVideo : c.type = "video_url") (h : validateVideo lib c n = .ok (c', n')) :
    Acceptable (contentJson c') := by
  rw [validateVideo] at h
  split at h
  · cases h
  rename_i video isURL
  split at h
  · cases h
  rename_i shape
  simp only [except_bind_ok] at h
  obtain ⟨_, source, h⟩ := h
  cases h
  have role : c.role = "reference_video" := by
    by_contra other
    exact shape (.inr (.inr (.inr other)))
  refine acceptable_of_checked video.url (by rw [isVideo]; rfl)
    (by simp [GenerationContent.media, isVideo, isURL]) (by rw [role]; decide) ?_
  rw [isVideo]
  exact validateVideoSource_checked lawful source

theorem validateAudio_acceptable (lawful : lib.Lawful) (isAudio : c.type = "audio_url") (h : validateAudio lib c n = .ok (c', n')) :
    Acceptable (contentJson c') := by
  rw [validateAudio] at h
  split at h
  · cases h
  rename_i audio isURL
  split at h
  · cases h
  rename_i shape
  simp only [except_bind_ok] at h
  obtain ⟨_, source, h⟩ := h
  cases h
  have role : c.role = "reference_audio" := by
    by_contra other
    exact shape (.inr (.inr (.inr other)))
  refine acceptable_of_checked audio.url (by rw [isAudio]; rfl)
    (by simp [GenerationContent.media, isAudio, isURL]) (by rw [role]; decide) ?_
  rw [isAudio]
  exact validateAudioSource_checked lawful source

theorem validateItem_acceptable (lawful : lib.Lawful) (h : validateItem lib c n = .ok (c', n')) : Acceptable (contentJson c') := by
  rw [validateItem] at h
  split at h
  · exact validateText_acceptable (by assumption) h
  split at h
  · exact validateImage_acceptable lawful (by assumption) h
  split at h
  · exact validateVideo_acceptable lawful (by assumption) h
  split at h
  · exact validateAudio_acceptable lawful (by assumption) h
  · cases h

theorem validateItems_acceptable (lawful : lib.Lawful)
    {items checked : List GenerationContent} (h : validateItems lib items n = .ok (checked, n')) :
    ∀ item ∈ checked.map contentJson, Acceptable item := by
  induction items generalizing n n' checked with
  | nil =>
    cases h
    nofun
  | cons c items ih =>
    simp only [validateItems, except_bind_ok] at h
    obtain ⟨⟨c', m⟩, isFirst, ⟨rest, k⟩, isRest, h⟩ := h
    cases h
    exact List.forall_mem_cons.mpr ⟨validateItem_acceptable lawful isFirst, ih isRest⟩

theorem validateCreate_acceptable (lawful : lib.Lawful)
    {profiles : Option (List (String × GenerationProfile))} {request : GenerationRequest}
    {v : ValidatedRequest} (h : validateCreate lib profiles request = .ok v) :
    ∀ item ∈ v.request.content.map contentJson, Acceptable item := by
  obtain ⟨n, valid, -⟩ := validateCreate_ok h
  exact validateItems_acceptable lawful valid

end

end

/-! ## Requests -/

section
variable {request : Json} {items items' : List Json}

theorem withContent_get (h : request.get "content" = some (.arr items)) :
    (withContent request items').get "content" = some (.arr items') := by
  rw [withContent, Json.get_modify_self, h]
  rfl

theorem withContent_withContent :
    withContent (withContent request items) items' = withContent request items' := by
  rw [withContent, withContent, Json.modify_modify, withContent]
  congr 1
  funext content
  cases content <;> rfl

theorem requestJson_content (r : GenerationRequest) : (requestJson r).get "content" = some (.arr (r.content.map contentJson)) := by
  simp [requestJson, get_cons]

theorem requestJson_elements (r : GenerationRequest) : Json.elements ((requestJson r).get "content") = r.content.map contentJson := by
  rw [requestJson_content]
  rfl

end

section
variable {f g : Nat → String → String → String} {items : List Json} {index : Nat}

theorem mapInline_congr (same : ∀ j item type url, items[j]? = some item →
    inline item = some (type, url) → f (index + j) type url = g (index + j) type url) :
    mapInline f index items = mapInline g index items := by
  induction items generalizing index with
  | nil => rfl
  | cons item rest ih =>
    have first : replaceInline (f index) item = replaceInline (g index) item := by
      rw [replaceInline, replaceInline]
      cases isInline : inline item with
      | none => rfl
      | some m =>
        have here := same 0 item m.1 m.2 rfl isInline
        show setURL m.1 (f index m.1 m.2) item = setURL m.1 (g index m.1 m.2) item
        rw [show f index m.1 m.2 = g index m.1 m.2 from here]
    rw [mapInline, mapInline, first, ih fun j item' type url place isInline => ?_]
    have := same (j + 1) item' type url place isInline
    rwa [Nat.add_assoc, Nat.add_comm 1 j]

theorem mapInline_none (none : ∀ item ∈ items, inline item = none) : mapInline f index items = items := by
  induction items generalizing index with
  | nil => rfl
  | cons item rest ih =>
    obtain ⟨here, there⟩ := List.forall_mem_cons.mp none
    rw [mapInline, replaceInline, here, ih there]

/-- Where an inline item ends up. -/
theorem mapInline_getElem {j : Nat} (place : items[j]? = some item) :
    (mapInline f index items)[j]? = some (replaceInline (f (index + j)) item) := by
  induction items generalizing index j with
  | nil => cases place
  | cons first rest ih =>
    cases j with
    | zero =>
      cases place
      rfl
    | succ j =>
      rw [mapInline, List.getElem?_cons_succ, ih place, Nat.add_assoc, Nat.add_comm 1 j]

theorem mediaOf_replaceInline {new : String → String → String} (isInline : inline item = some (type, url)) :
    mediaOf (replaceInline new item) = some (type, new type url) := by
  obtain ⟨media, data⟩ := inline_some.mp isInline
  have filled : url ≠ "" := by rintro rfl; cases data
  rw [replaceInline, isInline]
  exact mediaOf_setURL media filled

end

/-! ## Round trips -/

theorem cutData_append {header encoded : String} (plain : ',' ∉ header.toList) :
    cutData (header ++ "," ++ encoded) = some (header, encoded) := by
  have found : cut ',' (header ++ "," ++ encoded).toList = some (header.toList, encoded.toList) := by
    rw [cut_eq_some]
    exact ⟨by simp, plain⟩
  rw [cutData, found]
  simp

/-- A data URI with another header. -/
def respell (header url : String) : String :=
  match cutData url with
  | some (_, encoded) => "data:" ++ header ++ "," ++ encoded
  | none => url

/-- The two requests are equal as JSON but for the headers of the data URIs. -/
def SameButHeaders (request out : Json) : Prop :=
  ∃ headers : Nat → String, (∀ i, ',' ∉ (headers i).toList) ∧ out = rewrite (fun i _ url => respell (headers i) url) request

/-- Each inline item of the one decodes to the same bytes in the other. -/
def SameBytes (request out : Json) : Prop :=
  ∀ (i : Nat) item type url, (Json.elements (request.get "content"))[i]? = some item → inline item = some (type, url) →
    ∃ item' url', (Json.elements (out.get "content"))[i]? = some item' ∧
      mediaOf item' = some (type, url') ∧ mediaBytes url' = mediaBytes url

/-- `Restore` gives the request back that was spooled. -/
def RoundTrips (lib : Library) (r : Restorer) (taskID : String) (request spooled : Json) : Prop :=
  ∃ out, restore lib r taskID spooled = .ok out ∧ SameButHeaders request out ∧ SameBytes request out

/-- The request with a reference for each data URI. -/
def spooledRequest (lib : Library) (taskID : String) (request : Json) : Json := rewrite (fun i _ url => spooledURL lib taskID i url) request

/-- The request with the data URIs that are made of the files. -/
def rebuiltRequest (lib : Library) (request : Json) : Json := rewrite (fun _ => restoredURL lib) request

/-- When a request comes back: the type of each payload can be detected, its text is not broken
into lines, and the request with the references is not too long. -/
structure Restorable (lib : Library) (taskID : String) (request : Json) : Prop where
  detected : ∀ item ∈ Json.elements (request.get "content"), Detected item
  unbroken : ∀ item ∈ Json.elements (request.get "content"), ∀ type url header encoded, inline item = some (type, url) →
    cutData url = some (header, encoded) → ∀ c ∈ encoded.toList, Base64.lineEnd c = false
  fits : lib.size (spooledRequest lib taskID request) ≤ maxOfficialRequestBytes

section
variable {lib : Library} {d : DecodedDataURI} {type url : String}

theorem detected_plain (payload : List UInt8) : ',' ∉ (detectMediaType payload ++ ";base64").toList := by
  have known := detectMediaType_cases payload
  generalize detectMediaType payload = detected at known
  revert detected
  decide

theorem cutData_dataURI (payload : List UInt8) :
    cutData (dataURI (detectMediaType payload) payload) =
      some ("data:" ++ (detectMediaType payload ++ ";base64"), .ofList (Base64.encode payload)) := by
  have plain : ',' ∉ ("data:" ++ (detectMediaType payload ++ ";base64")).toList := by
    rw [String.toList_append]
    refine fun mem => (List.mem_append.mp mem).elim (fun lead => ?_) (detected_plain payload)
    revert lead
    decide
  have split : dataURI (detectMediaType payload) payload =
      "data:" ++ (detectMediaType payload ++ ";base64") ++ "," ++ .ofList (Base64.encode payload) := by
    apply String.toList_inj.mp
    simp [dataURI]
  rw [split, cutData_append plain]

theorem mediaBytes_dataURI {payload : List UInt8} : mediaBytes (dataURI (detectMediaType payload) payload) = some payload := by
  rw [mediaBytes, cutData_dataURI, Option.bind_some, String.toList_ofList, Base64.decode_encode]

/-- The restored data URI of a payload that is detected. -/
theorem restoredURL_eq (h : decodeDataURI lib type url = .ok d) (detected : detectMediaType d.payload ≠ "") :
    restoredURL lib type url = dataURI (detectMediaType d.payload) d.payload := by
  rw [restoredURL, h]
  show dataURI d.mediaType d.payload = _
  rw [(decodeDataURI_ok h).mediaType_eq detected]

variable {root taskID : String} {faults : Faults} {disk disk' : Disk} {items : List Json}
variable {request : Json} {prepared : PreparedRequest}

theorem prepareRequest_ok (h : prepareRequest lib root faults taskID request disk = (.ok prepared, disk')) :
    lib.trimSpace root ≠ "" ∧ ∃ items', Prepared lib taskID disk' 0 (Json.elements (request.get "content")) disk items' prepared.files ∧
      prepared.json = withContent request items' := by
  rw [prepareRequest] at h
  split at h
  · cases h
  rename_i configured
  split at h
  · cases h
  split at h
  · cases h
  rename_i items' files last isItems
  cases h
  exact ⟨configured, items', prepareItems_ok isItems, rfl⟩

variable {r : Restorer}

/-- What `Restore` gives back: the rebuilt request, if every type is detected. -/
theorem restore_prepared (lawful : lib.Lawful) (numeric : Numeric taskID) (content : request.get "content" = some (.arr items))
    (acceptable : ∀ item ∈ items, Acceptable item)
    (spooled : prepareRequest lib root faults taskID request disk = (.ok prepared, disk'))
    (undisturbed : Undisturbed r root prepared.files disk')
    (fits : lib.size (rebuiltRequest lib request) ≤ maxOfficialRequestBytes) (out : Json) :
    restore lib r taskID prepared.json = .ok out ↔
      (∀ item ∈ items, Detected item) ∧
        lib.size (spooledRequest lib taskID request) ≤ maxOfficialRequestBytes ∧ out = rebuiltRequest lib request := by
  obtain ⟨configured, items', isItems, isJson⟩ := prepareRequest_ok spooled
  have elements : Json.elements (request.get "content") = items := by rw [content]; rfl
  rw [elements] at isItems
  have isSpooled : prepared.json = spooledRequest lib taskID request := by
    rw [isJson, isItems.mapInline, spooledRequest, rewrite, elements]
  have isRebuilt : rebuiltRequest lib request = withContent request (mapInline (fun _ => restoredURL lib) 0 items) := by
    rw [rebuiltRequest, rewrite, elements]
  have loop := restoreItems_prepared lawful numeric configured undisturbed acceptable isItems
  have inner : Json.elements (prepared.json.get "content") = items' := by
    rw [isJson, withContent_get content]
    rfl
  have unchanged : (items.any fun item => (inline item).isSome) = false → prepared.json = rebuiltRequest lib request := fun none => by
    have nowhere : ∀ item ∈ items, inline item = Option.none := fun item mem => by simpa using List.any_eq_false.mp none item mem
    rw [isSpooled, spooledRequest, rewrite, elements, mapInline_none nowhere, isRebuilt, mapInline_none nowhere]
  have changed : withContent prepared.json (mapInline (fun _ => restoredURL lib) 0 items) = rebuiltRequest lib request := by
    rw [isJson, withContent_withContent, isRebuilt]
  rw [restore, ← isSpooled, inner]
  by_cases long : lib.size prepared.json > maxOfficialRequestBytes
  · rw [if_pos long]
    constructor
    · nofun
    · rintro ⟨-, short, -⟩
      omega
  rw [if_neg long, except_bind_ok]
  have last (b : Bool) (isAny : (items.any fun item => (inline item).isSome) = b) : (if (!b) = true then pure prepared.json
      else if lib.size (withContent prepared.json (mapInline (fun _ => restoredURL lib) 0 items)) > maxOfficialRequestBytes then
        .error "官方请求体不能超过 64 MiB"
      else pure (withContent prepared.json (mapInline (fun _ => restoredURL lib) 0 items)) :
          Except String Json) = .ok (rebuiltRequest lib request) := by
    cases b with
    | false => rw [if_pos (show (!false) = true from rfl), unchanged isAny]; rfl
    | true => rw [if_neg (by simp), changed, if_neg (Nat.not_lt.mpr fits)]; rfl
  constructor
  · rintro ⟨res, isRes, rest⟩
    obtain ⟨detected, rfl⟩ := (loop res).mp isRes
    exact ⟨detected, Nat.not_lt.mp long, (Except.ok.inj ((last _ rfl).symm.trans rest)).symm⟩
  · rintro ⟨detected, -, rfl⟩
    exact ⟨_, (loop _).mpr ⟨detected, rfl⟩, last _ rfl⟩

/-- The header that the rebuilt request has for an item. -/
def rebuiltHeader (lib : Library) (item : Json) : String :=
  match inline item with
  | some (type, url) =>
    match decodeDataURI lib type url with
    | .ok d => detectMediaType d.payload ++ ";base64"
    | .error _ => ""
  | none => ""

theorem rebuiltHeader_plain : ',' ∉ (rebuiltHeader lib item).toList := by
  rw [rebuiltHeader]
  split
  · split
    · exact detected_plain _
    · nofun
  · nofun

/-- Two spellings of a data URI with one text. -/
theorem respell_eq_dataURI {header encoded spelling : String} (isCut : cutData url = some (header, encoded)) (plain : ',' ∉ spelling.toList)
    {payload : List UInt8} : dataURI (detectMediaType payload) payload = respell spelling url ↔
      spelling = detectMediaType payload ++ ";base64" ∧ encoded = .ofList (Base64.encode payload) := by
  have plain' : ',' ∉ ("data:" ++ spelling).toList := by
    rw [String.toList_append]
    refine fun mem => (List.mem_append.mp mem).elim (fun lead => ?_) plain
    revert lead
    decide
  rw [respell, isCut]
  constructor
  · intro same
    have cuts := cutData_dataURI payload
    rw [same, cutData_append plain'] at cuts
    obtain ⟨heads, texts⟩ := Prod.mk.inj (Option.some.inj cuts)
    exact ⟨String.append_right_inj _ |>.mp heads, texts⟩
  · rintro ⟨rfl, rfl⟩
    apply String.toList_inj.mp
    simp [dataURI]

/-- Headers apart, the rebuilt request is the given one when no text is broken into lines. -/
theorem rebuilt_sameButHeaders (content : request.get "content" = some (.arr items))
    (decodes : ∀ item ∈ items, ∀ type url, inline item = some (type, url) → ∃ d, decodeDataURI lib type url = .ok d)
    (detected : ∀ item ∈ items, Detected item) :
    SameButHeaders request (rebuiltRequest lib request) ↔ ∀ item ∈ items, ∀ type url header encoded, inline item = some (type, url) →
      cutData url = some (header, encoded) → ∀ c ∈ encoded.toList, Base64.lineEnd c = false := by
  have elements : Json.elements (request.get "content") = items := by rw [content]; rfl
  -- What an inline item decodes to, and which text it has.
  have parts {item : Json} (mem : item ∈ items) {type url header encoded : String} (isInline : inline item = some (type, url))
      (isCut : cutData url = some (header, encoded)) : ∃ d, decodeDataURI lib type url = .ok d ∧
        restoredURL lib type url = dataURI (detectMediaType d.payload) d.payload ∧ Base64.decode encoded.toList = some d.payload := by
    obtain ⟨d, isD⟩ := decodes item mem type url isInline
    have bytes := (decodeDataURI_ok isD).bytes
    refine ⟨d, isD, restoredURL_eq isD (detected item mem type url d.payload isInline bytes), ?_⟩
    rwa [mediaBytes, isCut] at bytes
  constructor
  · rintro ⟨headers, plain, same⟩ item mem type url header encoded isInline isCut
    obtain ⟨d, -, isRestored, decoded⟩ := parts mem isInline isCut
    obtain ⟨j, place⟩ := List.mem_iff_getElem?.mp mem
    have lists : mapInline (fun _ => restoredURL lib) 0 items = mapInline (fun i _ url => respell (headers i) url) 0 items := by
      have read := congrArg (fun j : Json => j.get "content") same
      simp only [rebuiltRequest, rewrite, elements, withContent_get content] at read
      exact Json.arr.inj (Option.some.inj read)
    have places := congrArg (fun l : List Json => l[j]?) lists
    simp only [mapInline_getElem place, Option.some.injEq] at places
    have urls := congrArg mediaOf places
    rw [mediaOf_replaceInline isInline, mediaOf_replaceInline isInline] at urls
    have spelled := (Prod.mk.inj (Option.some.inj urls)).2
    rw [isRestored] at spelled
    have text := ((respell_eq_dataURI isCut (plain _)).mp spelled).2
    refine (Base64.encode_decode_iff decoded).mp ?_
    rw [text, String.toList_ofList]
  · intro unbroken
    refine ⟨fun i => (items[i]?.map (rebuiltHeader lib)).getD "", fun i => ?_, ?_⟩
    · show ',' ∉ ((items[i]?.map (rebuiltHeader lib)).getD "").toList
      cases items[i]? with
      | none => nofun
      | some item => exact rebuiltHeader_plain
    · rw [rebuiltRequest, rewrite, rewrite, elements]
      congr 1
      refine mapInline_congr fun j item type url place isInline => ?_
      have mem := List.mem_of_getElem? place
      obtain ⟨⟨header, encoded⟩, isCut⟩ : ∃ cut, cutData url = some cut := by
        obtain ⟨d, isD⟩ := decodes item mem type url isInline
        have bytes := (decodeDataURI_ok isD).bytes
        rw [mediaBytes, Option.bind_eq_some_iff] at bytes
        exact ⟨bytes.choose, bytes.choose_spec.1⟩
      obtain ⟨d, isD, isRestored, decoded⟩ := parts mem isInline isCut
      have isHeader : rebuiltHeader lib item = detectMediaType d.payload ++ ";base64" := by
        rw [rebuiltHeader, isInline]
        show (match decodeDataURI lib type url with | .ok d => detectMediaType d.payload ++ ";base64" | .error _ => "") = _
        rw [isD]
      have text := (Base64.encode_decode_iff decoded).mpr (unbroken item mem type url header encoded isInline isCut)
      have spelled := (respell_eq_dataURI isCut (detected_plain d.payload)).mpr ⟨rfl, by rw [text, String.ofList_toList]⟩
      rw [isRestored, spelled, Nat.zero_add]
      show _ = respell ((items[j]?.map (rebuiltHeader lib)).getD "") url
      rw [place, Option.map_some, Option.getD_some, isHeader]

theorem rebuilt_sameBytes (content : request.get "content" = some (.arr items))
    (decodes : ∀ item ∈ items, ∀ type url, inline item = some (type, url) → ∃ d, decodeDataURI lib type url = .ok d)
    (detected : ∀ item ∈ items, Detected item) : SameBytes request (rebuiltRequest lib request) := by
  intro i item type url place isInline
  have elements : Json.elements (request.get "content") = items := by rw [content]; rfl
  rw [elements] at place
  have mem := List.mem_of_getElem? place
  obtain ⟨d, isD⟩ := decodes item mem type url isInline
  have bytes := (decodeDataURI_ok isD).bytes
  refine ⟨_, restoredURL lib type url, ?_, mediaOf_replaceInline isInline, ?_⟩
  · rw [rebuiltRequest, rewrite, withContent_get content, elements]
    exact mapInline_getElem place
  · rw [restoredURL_eq isD (detected item mem type url d.payload isInline bytes), mediaBytes_dataURI, bytes]

end

/-! ## A library and a request -/

mutual
/-- The length of a document in which nothing is escaped. -/
def jsonSize : Json → Nat
  | .null => 4
  | .bool b => if b then 4 else 5
  | .num n => (toString n).length
  | .str s => s.utf8ByteSize + 2
  | .arr items => max 2 (itemsSize items + 1)
  | .obj members => max 2 (membersSize members + 1)

def itemsSize : List Json → Nat
  | [] => 0
  | item :: rest => jsonSize item + 1 + itemsSize rest

def membersSize : List (String × Json) → Nat
  | [] => 0
  | (key, value) :: rest => key.utf8ByteSize + 3 + jsonSize value + 1 + membersSize rest
end

/-- The 32 bytes of a digest. -/
def digestBytes (n : Nat) : List UInt8 := (List.range 32).map fun i => .ofNat (n / 256 ^ (31 - i))

/-- What the library gives for the texts of the two requests below. -/
def plainLibrary : Library where
  parse s :=
    if hasPrefix "proxy-input://" s then
      (cut '/' (s.toList.drop 14)).map fun (host, path) =>
        { scheme := "proxy-input", host := .ofList host, path := "/" ++ .ofList path, escapedPath := "/" ++ .ofList path }
    else none
  trimSpace s := s
  toLower s := .ofList (s.toList.map Char.toLower)
  equalFold a b := a.toList.map Char.toLower == b.toList.map Char.toLower
  sha256 bytes := digestBytes <|
    if bytes = [0x89, 0x50, 0x4e, 0x47, 0x0d, 0x0a, 0x1a, 0x0a] then 0x4c4b6a3be1314ab86138bef4314dde022e600960d8689a2c8f8631802d20dab6
    else if bytes = [0, 0, 0] then 0x709e80c88487a2411e1ee4dfb9f22a861492d20c4765150c0c794abd70f8147c
    else if bytes = inputSource "1" 1 "data:image/png;base64,AAAA" then 0x9a1089a80326724ba7d6cafa409d91342ec7d9f5dbdaaee0814d997a94796aad
    else 0x4f4968315284d0cdc1d0c4707e468c28c165a1245c675915b4b6ce95ea604d56
  size := jsonSize
  rel _ path := some path

theorem plainLibrary_lawful : plainLibrary.Lawful where
  parse_reference taskID inputID numeric _ := by
    have isRef : hasPrefix "proxy-input://" (reference taskID inputID) = true := by simp [hasPrefix, reference, String.toList_append]
    have digits : '/' ∉ taskID.toList := fun mem => by cases numeric.2 _ mem
    have found : cut '/' ((reference taskID inputID).toList.drop 14) = some (taskID.toList, inputID.toList) := by
      rw [cut_eq_some]
      exact ⟨by simp [reference, String.toList_append], digits⟩
    simp only [plainLibrary]
    rw [if_pos isRef, found]
    simp
  parse_scheme s u parsed isRef := by
    simp only [plainLibrary] at parsed
    rw [if_pos isRef] at parsed
    obtain ⟨cut, -, rfl⟩ := Option.map_eq_some_iff.mp parsed
    rfl
  equalFold_refl s := by simp [plainLibrary]
  sha256_length _ := by simp [plainLibrary, digestBytes]
  rel_plain _ _ _ _ _ _ := rfl

theorem numeric_one : Numeric "1" := by
  refine ⟨by decide, fun c mem => ?_⟩
  rw [show "1".toList = ['1'] from rfl, List.mem_singleton] at mem
  rw [mem]
  rfl

/-- A text and an inline image. -/
def imageRequest (raw : String) : GenerationRequest where
  model := "MiniMax-H3"
  content := [{ type := "text", text := "a" }, { type := "image_url", imageURL := some ⟨raw⟩, role := "first_frame" }]
  resolution := "768P"
  duration := 5
  ratio := "adaptive"

/-- The records and files of a request as they were written. -/
def restorerFor (root : String) (prepared : PreparedRequest) (disk : Disk) : Restorer where
  root := root
  getInputSpoolFile taskID id := prepared.files.find? fun f => f.taskID == taskID && f.id == id
  files := { contents := disk }

/-- The request is accepted, spooled, and left alone. -/
theorem imageRequest_spooled (raw : String)
    (valid : (validateCreate plainLibrary none (imageRequest raw)).map (·.request) = .ok (imageRequest raw))
    (one : (prepareRequest plainLibrary "/t" {} "1" (requestJson (imageRequest raw))
      fun _ => none).1.toOption.map (·.files.length) = some 1) :
    ∃ v prepared disk', validateCreate plainLibrary none (imageRequest raw) = .ok v ∧ v.request = imageRequest raw ∧
      (prepareRequest plainLibrary "/t" {} "1" (requestJson (imageRequest raw)) fun _ => none) = (.ok prepared, disk') ∧
      Undisturbed (restorerFor "/t" prepared disk') "/t" prepared.files disk' := by
  cases isValid : validateCreate plainLibrary none (imageRequest raw) with
  | error e =>
    rw [isValid] at valid
    cases valid
  | ok v =>
    rw [isValid] at valid
    rcases isSpooled : prepareRequest plainLibrary "/t" {} "1" (requestJson (imageRequest raw)) fun _ => none with ⟨result, disk'⟩
    rw [isSpooled] at one
    cases result with
    | error e => cases one
    | ok prepared =>
      obtain ⟨f, isOne⟩ := List.length_eq_one_iff.mp (Option.some.inj one)
      refine ⟨v, prepared, disk', rfl, Except.ok.inj valid, rfl, rfl, fun _ => rfl, fun g mem => ?_, fun _ _ => rfl, fun _ _ => rfl⟩
      rw [isOne] at mem
      simp [restorerFor, isOne, List.mem_singleton.mp mem]

/-- The item with the image. -/
def imageItem (raw : String) : Json := contentJson { type := "image_url", imageURL := some ⟨raw⟩, role := "first_frame" }

theorem imageRequest_items {raw : String} :
    Json.elements ((requestJson (imageRequest raw)).get "content") = [contentJson { type := "text", text := "a" }, imageItem raw] := by
  rw [requestJson_elements]
  rfl

theorem imageItem_media (raw : String) : mediaOf (imageItem raw) = some ("image_url", raw) := by
  rw [imageItem, mediaOf_contentJson]
  simp [isMedia, GenerationContent.media]

theorem imageRequest_inline {raw : String}
    (mem : item ∈ Json.elements ((requestJson (imageRequest raw)).get "content"))
    (isInline : inline item = some (type, url)) : url = raw := by
  obtain ⟨media, -⟩ := inline_some.mp isInline
  rw [imageRequest_items, List.mem_pair] at mem
  rcases mem with rfl | rfl
  · rw [mediaOf_contentJson] at media
    cases media
  · rw [imageItem_media] at media
    exact (Prod.mk.inj (Option.some.inj media)).2.symm

/-! ## The round trip -/

section
variable {root taskID : String} {faults : Faults} {disk disk' : Disk} {prepared : PreparedRequest} {r : Restorer}

/-- Let a request be accepted by `ValidateCreate`, and let `PrepareRequest` spool its validated
form, with the callback or without it, for a task with an id of `newNumericID`. If the files and
their records are left alone and the rebuilt body is not too long, `Restore` gives the request
back exactly when it is `Restorable`. -/
theorem official_input_round_trip {lib : Library} (lawful : lib.Lawful)
    {profiles : Option (List (String × GenerationProfile))} {given : GenerationRequest}
    {v : ValidatedRequest} (accepted : validateCreate lib profiles given = .ok v) (callback : Option String) (numeric : Numeric taskID)
    (spooled : prepareRequest lib root faults taskID (requestJson { v.request with callbackURL := callback }) disk = (.ok prepared, disk'))
    (undisturbed : Undisturbed r root prepared.files disk')
    (fits : lib.size (rebuiltRequest lib (requestJson { v.request with callbackURL := callback })) ≤ maxOfficialRequestBytes) :
    RoundTrips lib r taskID (requestJson { v.request with callbackURL := callback }) prepared.json ↔
      Restorable lib taskID (requestJson { v.request with callbackURL := callback }) := by
  have content := requestJson_content { v.request with callbackURL := callback }
  have elements := requestJson_elements { v.request with callbackURL := callback }
  have acceptable := validateCreate_acceptable lawful accepted
  have restored := restore_prepared lawful numeric content acceptable spooled undisturbed fits
  have decodes : ∀ item ∈ v.request.content.map contentJson, ∀ type url, inline item = some (type, url) →
      ∃ d, decodeDataURI lib type url = .ok d := by
    obtain ⟨-, items', isItems, -⟩ := prepareRequest_ok spooled
    rw [elements] at isItems
    exact isItems.decodes
  constructor
  · rintro ⟨out, isOut, same, -⟩
    obtain ⟨detected, short, rfl⟩ := (restored out).mp isOut
    refine ⟨?_, ?_, short⟩
    · rw [elements]
      exact detected
    · rw [elements]
      exact (rebuilt_sameButHeaders content decodes detected).mp same
  · intro h
    obtain ⟨detected, unbroken, short⟩ := h
    rw [elements] at detected unbroken
    exact ⟨_, (restored _).mpr ⟨detected, short, rfl⟩, (rebuilt_sameButHeaders content decodes detected).mpr unbroken,
      rebuilt_sameBytes content decodes detected⟩

end

/-- An image with the signature of PNG comes back. -/
theorem png_round_trips : ∃ prepared disk',
    (prepareRequest plainLibrary "/t" {} "1" (requestJson (imageRequest "data:image/png;base64,iVBORw0KGgo=")) fun _ => none) =
      (.ok prepared, disk') ∧
    RoundTrips plainLibrary (restorerFor "/t" prepared disk') "1" (requestJson (imageRequest "data:image/png;base64,iVBORw0KGgo="))
      prepared.json := by
  obtain ⟨v, prepared, disk', accepted, same, spooled, undisturbed⟩ :=
    imageRequest_spooled "data:image/png;base64,iVBORw0KGgo=" (by decide +kernel) (by decide +kernel)
  have restorable : Restorable plainLibrary "1" (requestJson (imageRequest "data:image/png;base64,iVBORw0KGgo=")) := by
    refine ⟨fun item mem type url bytes isInline isBytes => ?_,
      fun item mem type url header encoded isInline isCut => ?_, by decide +kernel⟩
    · rw [imageRequest_inline mem isInline] at isBytes
      have png : mediaBytes "data:image/png;base64,iVBORw0KGgo=" =
          some [0x89, 0x50, 0x4e, 0x47, 0x0d, 0x0a, 0x1a, 0x0a] := by decide +kernel
      rw [← Option.some.inj (png.symm.trans isBytes)]
      decide
    · rw [imageRequest_inline mem isInline] at isCut
      have parts : cutData "data:image/png;base64,iVBORw0KGgo=" = some ("data:image/png;base64", "iVBORw0KGgo=") := by decide +kernel
      cases parts.symm.trans isCut
      have whole : "iVBORw0KGgo=".toList.all (fun c => !Base64.lineEnd c) = true := by decide
      exact fun c mem => by simpa using List.all_eq_true.mp whole c mem
  refine ⟨prepared, disk', spooled, ?_⟩
  have short : plainLibrary.size (rebuiltRequest plainLibrary (requestJson (imageRequest "data:image/png;base64,iVBORw0KGgo=")))
      ≤ maxOfficialRequestBytes := by decide +kernel
  rw [← same] at spooled restorable short ⊢
  exact (official_input_round_trip plainLibrary_lawful accepted v.request.callbackURL numeric_one spooled undisturbed short).mpr restorable

/-- Three zero bytes that are declared to be PNG are accepted and spooled, and do not come back. -/
theorem undetected_media_lost : ∃ v prepared disk',
    validateCreate plainLibrary none (imageRequest "data:image/png;base64,AAAA") = .ok v ∧
      v.request = imageRequest "data:image/png;base64,AAAA" ∧
    prepareRequest plainLibrary "/t" {} "1" (requestJson v.request) (fun _ => none) = (.ok prepared, disk') ∧
    Undisturbed (restorerFor "/t" prepared disk') "/t" prepared.files disk' ∧
    plainLibrary.size (rebuiltRequest plainLibrary (requestJson v.request)) ≤ maxOfficialRequestBytes ∧
    ¬ RoundTrips plainLibrary (restorerFor "/t" prepared disk') "1" (requestJson v.request) prepared.json := by
  obtain ⟨v, prepared, disk', accepted, same, spooled, undisturbed⟩ :=
    imageRequest_spooled "data:image/png;base64,AAAA" (by decide +kernel) (by decide +kernel)
  have short : plainLibrary.size (rebuiltRequest plainLibrary (requestJson (imageRequest "data:image/png;base64,AAAA")))
      ≤ maxOfficialRequestBytes := by decide +kernel
  refine ⟨v, prepared, disk', accepted, same, by rw [same]; exact spooled, undisturbed, by rwa [same], ?_⟩
  rw [same]
  rintro ⟨out, isOut, -⟩
  have content := requestJson_content (imageRequest "data:image/png;base64,AAAA")
  have acceptable := validateCreate_acceptable plainLibrary_lawful accepted
  rw [same] at acceptable
  have detected := ((restore_prepared plainLibrary_lawful numeric_one content acceptable spooled undisturbed short out).mp isOut).1
  have isInline : inline (imageItem "data:image/png;base64,AAAA") = some ("image_url", "data:image/png;base64,AAAA") :=
    inline_some.mpr ⟨imageItem_media _, by decide⟩
  exact detected (imageItem "data:image/png;base64,AAAA") (.tail _ (.head _)) _ _ [0, 0, 0] isInline (by decide +kernel) (by decide)

end MinimaxProxy.Inputs

import MinimaxProxy.Inputs.Validation

/-!
# Spooling and restoring inline media

`inputspool`: `PrepareRequest` writes the payload of each data URI of a request to a file of
the task and puts a reference in its place; `Restore` reads the files back. Requests are
JSON values here; the text of one has the length `Library.size`. Files are named by their path
below the root directory.
-/

namespace MinimaxProxy.Inputs
open Text

/-- `domain.InputSpoolFile`, as far as it is filled in here. -/
structure InputSpoolFile where
  id : String
  taskID : String
  contentIndex : Nat
  contentType : String
  role : String
  sourceKind : String
  declaredMIME : String
  detectedMIME : String
  mediaType : String
  extension : String
  relativePath : String
  sizeBytes : Nat
  sha256 : String

abbrev Disk := String → Option (List UInt8)

/-! ## Media types -/

def ascii (s : String) : List UInt8 := s.toList.map fun c => .ofNat c.toNat

/-- `detectMediaType` (spooler.go:222). -/
def detectMediaType (payload : List UInt8) : String :=
  let slice (i n : Nat) := (payload.drop i).take n
  if slice 0 8 = [0x89, 0x50, 0x4e, 0x47, 0x0d, 0x0a, 0x1a, 0x0a] then "image/png"
  else if slice 0 3 = [0xff, 0xd8, 0xff] then "image/jpeg"
  else if slice 0 4 = ascii "RIFF" ∧ slice 8 4 = ascii "WEBP" then "image/webp"
  else if slice 0 4 = ascii "RIFF" ∧ slice 8 4 = ascii "WAVE" then "audio/wav"
  else if payload.length ≥ 12 ∧ slice 4 4 = ascii "ftyp" then "video/mp4"
  else if slice 0 3 = ascii "ID3" then "audio/mpeg"
  else match payload with
    | a :: b :: _ => if a = 0xff ∧ b &&& 0xe0 = 0xe0 then "audio/mpeg" else ""
    | _ => ""

/-- `normalizeMediaType` (spooler.go:257). -/
def normalizeMediaType (mediaType : String) : String :=
  if mediaType = "image/jpg" then "image/jpeg"
  else if mediaType = "audio/mp3" then "audio/mpeg"
  else if mediaType = "audio/x-wav" then "audio/wav"
  else mediaType

/-- `chooseMediaType` (spooler.go:243). -/
def chooseMediaType (contentType declared detected : String) : String :=
  let wantPrefix := trimEnd "_url" contentType ++ "/"
  if detected ≠ "" then if hasPrefix wantPrefix detected then normalizeMediaType detected else ""
  else if hasPrefix wantPrefix declared then normalizeMediaType declared
  else ""

/-- `mediaExtension` (spooler.go:270). -/
def mediaExtension (mediaType : String) : String :=
  let normalized := normalizeMediaType mediaType
  if normalized = "image/jpeg" then ".jpg"
  else if normalized = "image/png" then ".png"
  else if normalized = "image/webp" then ".webp"
  else if normalized = "audio/wav" then ".wav"
  else if normalized = "audio/mpeg" then ".mp3"
  else if normalized = "video/mp4" then ".mp4"
  else ".bin"

/-- `DecodedDataURI`. -/
structure DecodedDataURI where
  payload : List UInt8
  declaredMIME : String
  detectedMIME : String
  mediaType : String
  extension : String
  sha256 : String

def hexDigit (n : Nat) : Char := "0123456789abcdef".toList.getD n '0'

/-- `hex.EncodeToString`. -/
def hex (bytes : List UInt8) : List Char := bytes.flatMap fun b => [hexDigit (b.toNat / 16), hexDigit (b.toNat % 16)]

section
variable (lib : Library)

/-- The type that the header of a data URI declares. -/
def declaredType (header : String) : String := lib.toLower (trimEnd ";base64" (trimStart "data:" header))

/-- `DecodeDataURI` (spooler.go:38); the position in the error of the decoder is left out. -/
def decodeDataURI (contentType rawURL : String) : Except String DecodedDataURI :=
  match cutData rawURL with
  | none => .error "素材 Data URI 无效"
  | some (header, encoded) =>
    if encoded = "" ∨ !hasSuffix ";base64" (lib.toLower header) then .error "素材 Data URI 无效"
    else match Base64.decode encoded.toList with
      | none => .error "illegal base64 data"
      | some payload =>
        if payload = [] then .error "输入素材为空"
        else
          let declared := declaredType lib header
          let detected := detectMediaType payload
          let mediaType := chooseMediaType contentType declared detected
          if mediaType = "" then .error "媒体文件格式与声明类型不匹配"
          else .ok { payload := payload, declaredMIME := normalizeMediaType declared, detectedMIME := normalizeMediaType detected
                     mediaType := mediaType, extension := mediaExtension mediaType, sha256 := .ofList (hex (lib.sha256 payload)) }

/-! ## The media of a request -/

def isMedia (type : String) : Bool := type = "image_url" ∨ type = "video_url" ∨ type = "audio_url"

/-- The type and the URL of a media item, as both loops read them. -/
def mediaOf (item : Json) : Option (String × String) :=
  let type := Json.text (item.get "type")
  if isMedia type then some (type, Json.text ((item.get type).bind (·.get "url"))) else none

/-- The assignment to `urlObject["url"]`. -/
def setURL (type url : String) (item : Json) : Json := item.modify type fun object => object.modify "url" fun _ => .str url

/-- `roleOf` (spooler.go:175). -/
def roleOf (item : Json) : String :=
  let role := Json.text (item.get "role")
  if role = "" then "input" else role

/-- The text that the id of an input is the digest of. -/
def inputSource (taskID : String) (index : Nat) (source : String) : List UInt8 :=
  (taskID ++ "\x00" ++ toString index ++ "\x00" ++ source).toUTF8.data.toList

/-- `stableInputID` (spooler.go:217). -/
def stableInputID (taskID : String) (index : Nat) (source : String) : String :=
  "input_" ++ .ofList (hex ((lib.sha256 (inputSource taskID index source)).take 16))

def reference (taskID inputID : String) : String := "proxy-input://" ++ taskID ++ "/" ++ inputID

/-- `safeUnder` (spooler.go:289), for a path joined to the directory. -/
def safeUnder (directory path : String) : Bool :=
  match lib.rel directory path with
  | none => false
  | some rel => rel ≠ "." ∧ !hasPrefix ".." rel ∧ !hasPrefix "/" rel

/-! ## Spooling -/

/-- What fails during a call: the context has ended before an item, or the operating system
refuses an operation on a path. -/
structure Faults where
  ctx : Nat → Option String := fun _ => none
  mkdir : String → Option String := fun _ => none
  write : String → Option String := fun _ => none
  rename : String → Option String := fun _ => none

/-- The record of a file. -/
def spoolFile (taskID : String) (index : Nat) (contentType role rawURL : String) (decoded : DecodedDataURI) : InputSpoolFile where
  id := stableInputID lib taskID index rawURL
  taskID := taskID
  contentIndex := index
  contentType := contentType
  role := role
  sourceKind := "data_uri"
  declaredMIME := declaredType lib ((cutData rawURL).elim rawURL Prod.fst)
  detectedMIME := detectMediaType decoded.payload
  mediaType := decoded.mediaType
  extension := decoded.extension
  relativePath := taskID ++ "/" ++ stableInputID lib taskID index rawURL ++ decoded.extension
  sizeBytes := decoded.payload.length
  sha256 := decoded.sha256

/-- `writeDataURI` (spooler.go:183). -/
def writeDataURI (root : String) (faults : Faults) (taskID : String) (index : Nat) (contentType role rawURL : String) (disk : Disk) :
    Except String InputSpoolFile × Disk :=
  match decodeDataURI lib contentType rawURL with
  | .error e => (.error e, disk)
  | .ok decoded =>
    let file := spoolFile lib taskID index contentType role rawURL decoded
    if !safeUnder lib (root ++ "/" ++ taskID) (file.id ++ file.extension) then (.error "输入临时文件路径无效", disk)
    else match faults.mkdir taskID, faults.write file.relativePath, faults.rename file.relativePath with
      | some e, _, _ => (.error e, disk)
      | none, some e, _ => (.error e, disk)
      | none, none, some e => (.error e, Function.update disk (file.relativePath ++ ".part") none)
      | none, none, none =>
        (.ok file, Function.update (Function.update disk (file.relativePath ++ ".part") none) file.relativePath (some decoded.payload))

/-- The body of the loop of `PrepareRequest`: the item with its reference, and its file. -/
def prepareItem (root : String) (faults : Faults) (taskID : String) (index : Nat) (item : Json) (disk : Disk) :
    Except String (Json × List InputSpoolFile) × Disk :=
  match faults.ctx index with
  | some e => (.error e, disk)
  | none =>
    match mediaOf item with
    | none => (.ok (item, []), disk)
    | some (type, url) =>
      if hasPrefix "data:" url then
        match writeDataURI lib root faults taskID index type (roleOf item) url disk with
        | (.error e, disk) => (.error e, disk)
        | (.ok file, disk) => (.ok (setURL type (reference taskID file.id) item, [file]), disk)
      else (.ok (item, []), disk)

/-- The loop of `PrepareRequest`. -/
def prepareItems (root : String) (faults : Faults) (taskID : String) :
    Nat → List Json → Disk → Except String (List Json × List InputSpoolFile) × Disk
  | _, [], disk => (.ok ([], []), disk)
  | index, item :: rest, disk =>
    match prepareItem lib root faults taskID index item disk with
    | (.error e, disk) => (.error e, disk)
    | (.ok (item, files), disk) =>
      match prepareItems root faults taskID (index + 1) rest disk with
      | (.error e, disk) => (.error e, disk)
      | (.ok (rest, others), disk) => (.ok (item :: rest, files ++ others), disk)

/-- `PreparedRequest`. -/
structure PreparedRequest where
  json : Json
  files : List InputSpoolFile

/-- `Cleanup`: the directory of the task is removed. -/
def cleanup (taskID : String) (disk : Disk) : Disk := fun path => if hasPrefix (taskID ++ "/") path then none else disk path

/-- The elements of `content`, replaced. -/
def withContent (request : Json) (items : List Json) : Json :=
  request.modify "content" fun content => match content with
    | .arr _ => .arr items
    | other => other

/-- `PrepareRequest` (spooler.go:128). -/
def prepareRequest (root : String) (faults : Faults) (taskID : String) (request : Json) (disk : Disk) :
    Except String PreparedRequest × Disk :=
  if lib.trimSpace root = "" then (.error "输入临时目录未配置", disk)
  else if taskID = "" ∨ '/' ∈ taskID.toList ∨ '\\' ∈ taskID.toList ∨ taskID = "." ∨ taskID = ".." then (.error "task_id 无效", disk)
  else
    match prepareItems lib root faults taskID 0 (Json.elements (request.get "content")) disk with
    | (.error e, disk) => (.error e, cleanup taskID disk)
    | (.ok (items, files), disk) => (.ok { json := withContent request items, files := files }, disk)

/-! ## Restoring -/

def maxOfficialRequestBytes : Nat := 64 * 2 ^ 20

/-- `maxDecodedBytes` (restorer.go:139). -/
def maxDecodedBytes (contentType : String) : Nat :=
  if contentType = "image_url" then 30 * 2 ^ 20
  else if contentType = "video_url" then 50 * 2 ^ 20
  else if contentType = "audio_url" then 15 * 2 ^ 20
  else 0

/-- `filepath.Ext`. -/
def pathExt (path : String) : String :=
  match path.toList.reverse.span fun c => c ≠ '.' ∧ c ≠ '/' with
  | (tail, '.' :: _) => .ofList ('.' :: tail.reverse)
  | _ => ""

/-- The files as `Restore` finds them: their contents, and whether reading works. -/
structure Files where
  contents : Disk
  reads : String → Bool := fun _ => true

/-- `readVerified` (restorer.go:109). -/
def readVerified (root : String) (files : Files) (file : InputSpoolFile) : Except String (List UInt8) :=
  if !safeUnder lib root file.relativePath then .error "输入暂存文件路径无效"
  else if pathExt file.relativePath ≠ file.extension then .error "输入暂存文件扩展名不匹配"
  else
    match files.contents file.relativePath with
    | none => .error "输入暂存文件不可读"
    | some payload =>
      if payload.length ≠ file.sizeBytes ∨ payload.length = 0 ∨ payload.length > maxDecodedBytes file.contentType then
        .error "输入暂存文件大小不匹配"
      else if !files.reads file.relativePath then .error "读取输入暂存文件失败"
      else if !lib.equalFold (.ofList (hex (lib.sha256 payload))) file.sha256 then .error "输入暂存文件校验失败"
      else
        let detected := normalizeMediaType (detectMediaType payload)
        if detected = "" ∨ detected ≠ normalizeMediaType file.mediaType then .error "输入暂存文件类型不匹配"
        else .ok payload

/-- `parseProxyInputReference` (restorer.go:97). -/
def parseProxyInputReference (rawURL taskID : String) : Except String String :=
  match lib.parse rawURL with
  | none => .error "输入暂存引用无效"
  | some parsed =>
    if parsed.scheme ≠ "proxy-input" ∨ parsed.host ≠ taskID ∨ parsed.user ∨ parsed.rawQuery ≠ "" ∨ parsed.fragment ≠ "" then
      .error "输入暂存引用无效"
    else
      let inputID := trimStart "/" parsed.escapedPath
      if inputID = "" ∨ '/' ∈ inputID.toList ∨ inputID ≠ .ofList (parsed.path.toList.drop 1) then .error "输入暂存引用无效"
      else .ok inputID

/-- `Restorer`, with the files it finds; the context may end before an item. -/
structure Restorer where
  root : String
  getInputSpoolFile : String → String → Option InputSpoolFile
  files : Files
  ctx : Nat → Option String := fun _ => none

/-- The data URI of a file. -/
def dataURI (mediaType : String) (payload : List UInt8) : String := "data:" ++ mediaType ++ ";base64," ++ .ofList (Base64.encode payload)

/-- The body of the loop of `Restore`: the item, and whether it was changed. -/
def restoreItem (r : Restorer) (taskID : String) (index : Nat) (item : Json) : Except String (Json × Bool) :=
  match r.ctx index with
  | some e => .error e
  | none =>
    match mediaOf item with
    | none => .ok (item, false)
    | some (type, url) =>
      if !hasPrefix "proxy-input://" url then .ok (item, false)
      else if lib.trimSpace r.root = "" then .error "输入还原器未配置"
      else do
        let inputID ← parseProxyInputReference lib url taskID
        match r.getInputSpoolFile taskID inputID with
        | none => .error "读取输入暂存元数据失败"
        | some file =>
          if file.id ≠ inputID ∨ file.taskID ≠ taskID ∨ file.contentIndex ≠ index ∨ file.contentType ≠ type
              ∨ file.role ≠ Json.text (item.get "role") ∨ file.sourceKind ≠ "data_uri" then .error "输入暂存元数据与请求不匹配"
          else do
            let payload ← readVerified lib r.root r.files file
            pure (setURL type (dataURI file.mediaType payload) item, true)

/-- The loop of `Restore`. -/
def restoreItems (r : Restorer) (taskID : String) : Nat → List Json → Except String (List Json × Bool)
  | _, [] => .ok ([], false)
  | index, item :: rest => do
    let (item, changed) ← restoreItem lib r taskID index item
    let (rest, others) ← restoreItems r taskID (index + 1) rest
    pure (item :: rest, changed || others)

/-- `Restore` (restorer.go:35). -/
def restore (r : Restorer) (taskID : String) (request : Json) : Except String Json :=
  if lib.size request > maxOfficialRequestBytes then .error "官方请求体不能超过 64 MiB"
  else do
    let (items, changed) ← restoreItems lib r taskID 0 (Json.elements (request.get "content"))
    if !changed then pure request
    else
      let restored := withContent request items
      if lib.size restored > maxOfficialRequestBytes then .error "官方请求体不能超过 64 MiB" else pure restored

end

end MinimaxProxy.Inputs

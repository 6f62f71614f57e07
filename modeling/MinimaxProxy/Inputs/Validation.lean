import MinimaxProxy.Domain.Types
import MinimaxProxy.Text.Base64
import MinimaxProxy.Text.Json
import MinimaxProxy.Text.Strings
import Mathlib.Data.List.Infix

/-!
# Validation of a creation request

`protocol/h3.go`: `ValidateCreate` with the checks of the media sources, and the JSON of the
request that it gives back.
-/

namespace MinimaxProxy.Inputs
open Text

/-- `url.URL`, with what `EscapedPath` makes of its path. -/
structure URL where
  scheme : String
  host : String
  user : Bool := false
  path : String := ""
  escapedPath : String := ""
  rawQuery : String := ""
  fragment : String := ""
  opaquePart : String := ""

/-- What is used of Go's library. -/
structure Library where
  /-- `url.Parse`. -/
  parse : String → Option URL
  trimSpace : String → String
  toLower : String → String
  equalFold : String → String → Bool
  sha256 : List UInt8 → List UInt8
  /-- The length of what `json.Marshal` makes of a value. -/
  size : Json → Nat
  /-- `filepath.Rel` from a directory to a path joined to it, both made absolute. -/
  rel : String → String → Option String

def hasPrefix (p s : String) : Bool := p.toList.isPrefixOf s.toList

def hasSuffix (p s : String) : Bool := p.toList.isSuffixOf s.toList

/-- `strings.TrimPrefix`. -/
def trimStart (p s : String) : String := .ofList (trimPrefix p.toList s.toList)

/-- `strings.TrimSuffix`. -/
def trimEnd (p s : String) : String := .ofList (trimSuffix p.toList s.toList)

/-- `strings.Cut` of a data URI at its comma: the header and what is encoded. -/
def cutData (s : String) : Option (String × String) := (cut ',' s.toList).map fun (header, encoded) => (.ofList header, .ofList encoded)

/-! ## Sources -/

def maxDecodedImageBytes : Nat := 30 * 2 ^ 20
def maxDecodedVideoBytes : Nat := 50 * 2 ^ 20
def maxDecodedAudioBytes : Nat := 15 * 2 ^ 20

/-- `Encoding.EncodedLen`. -/
def encodedLen (n : Nat) : Nat := (n + 2) / 3 * 4

section
variable (lib : Library)

/-- `parseDataURI` (h3.go:210); nothing when the value is no data URI. -/
def parseDataURI (value label : String) (maxBytes : Nat) (unit : String) (supported : List (String × String)) :
    Option (Except String (String × List UInt8)) :=
  if !hasPrefix "data:" value then none
  else some do
    let malformed := label ++ " Base64 格式无效"
    let tooLong := label ++ " Base64 " ++ unit ++ "不能超过 " ++ toString (maxBytes / 2 ^ 20) ++ " MiB"
    match cutData value with
    | none => .error malformed
    | some (header, encoded) =>
      if encoded = "" then .error malformed
      else match cut ';' (trimStart "data:" header).toList with
        | none => .error malformed
        | some (mediaType, encoding) =>
          if !lib.equalFold (.ofList encoding) "base64" then .error malformed
          else match supported.find? (·.1 == lib.toLower (.ofList mediaType)) with
            | none => .error (label ++ " Base64 类型不支持")
            | some (_, normalized) =>
              if encoded.utf8ByteSize > encodedLen maxBytes then .error tooLong
              else match Base64.decode encoded.toList with
                | none => .error malformed
                | some decoded => if decoded.length > maxBytes then .error tooLong else .ok (normalized, decoded)

/-- The check of `mm_file` addresses and of URLs, with the text for a bad URL. -/
def validateURL (value message : String) : Except String Unit :=
  if hasPrefix "mm_file://" value then
    if lib.trimSpace (trimStart "mm_file://" value) = "" then .error "mm_file 媒体地址缺少文件标识" else .ok ()
  else match lib.parse value with
    | none => .error message
    | some parsed =>
      if parsed.host = "" ∨ (parsed.scheme ≠ "http" ∧ parsed.scheme ≠ "https") ∨ parsed.user then .error message else .ok ()

/-- `validateImageSource` (h3.go:147). -/
def validateImageSource (value : String) : Except String Unit :=
  match parseDataURI lib value "图片" maxDecodedImageBytes "单张"
    [("image/jpeg", "image/jpeg"), ("image/jpg", "image/jpeg"), ("image/png", "image/png"), ("image/webp", "image/webp")] with
  | some result => result.map fun _ => ()
  | none => validateURL lib value "媒体 URL 必须是无凭据的 HTTP/HTTPS 地址"

/-- `validateAccessibleMediaURL` (h3.go:178). -/
def validateAccessibleMediaURL (value : String) : Except String Unit := validateURL lib value "音频视频必须要上传可以访问的url。"

/-- An error about the type, in other words. -/
def typeError {α : Type} (message : String) (result : Except String α) : Except String α :=
  result.mapError fun e => if "类型".toList <:+: e.toList then message else e

/-- `validateVideoSource` (h3.go:167). -/
def validateVideoSource (value : String) : Except String Unit :=
  match parseDataURI lib value "视频" maxDecodedVideoBytes "单段" [("video/mp4", "video/mp4")] with
  | some result => typeError "视频 Base64 类型仅支持 MP4" (result.map fun _ => ())
  | none => validateAccessibleMediaURL lib value

/-- `ParseAudioDataURI` (h3.go:200). -/
def parseAudioDataURI (value : String) : Option (Except String (String × List UInt8)) :=
  (parseDataURI lib value "音频" maxDecodedAudioBytes "单段"
    [("audio/wav", "audio/wav"), ("audio/mpeg", "audio/mpeg"), ("audio/mp3", "audio/mp3")]).map
    (typeError "音频 Base64 类型仅支持 WAV 或 MP3")

/-- `validateAudioSource` (h3.go:192). -/
def validateAudioSource (value : String) : Except String Unit :=
  match parseAudioDataURI lib value with
  | some result => result.map fun _ => ()
  | none => validateAccessibleMediaURL lib value

/-! ## The request -/

/-- What the loop counts, and the last text. -/
structure Counts where
  prompt : String := ""
  text : Nat := 0
  first : Nat := 0
  last : Nat := 0
  referenceImages : Nat := 0
  referenceVideos : Nat := 0
  referenceAudios : Nat := 0

/-- The role of an image in the counts. -/
def countImage (role : String) (n : Counts) : Except String Counts :=
  if role = "first_frame" then .ok { n with first := n.first + 1 }
  else if role = "last_frame" then .ok { n with last := n.last + 1 }
  else if role = "reference_image" then .ok { n with referenceImages := n.referenceImages + 1 }
  else .error "image_url role 无效"

/-- An item of type `text` (h3.go:53). -/
def validateText (item : GenerationContent) (n : Counts) : Except String (GenerationContent × Counts) :=
  if item.text = "" ∨ lib.trimSpace item.text = "" ∨ item.text.length > 14000 then
    .error "content 必须包含 1 个非空且不超过 14000 字符的 text"
  else if item.imageURL.isSome ∨ item.videoURL.isSome ∨ item.audioURL.isSome ∨ item.role ≠ "" then .error "text 元素包含不允许的字段"
  else .ok (item, { n with text := n.text + 1, prompt := item.text })

/-- An item of type `image_url` (h3.go:62), whose role may be left out. -/
def validateImage (item : GenerationContent) (n : Counts) : Except String (GenerationContent × Counts) :=
  match item.imageURL with
  | none => .error "image_url 元素结构无效"
  | some image =>
    if item.videoURL.isSome ∨ item.audioURL.isSome ∨ item.text ≠ "" then .error "image_url 元素结构无效"
    else do
      validateImageSource lib image.url
      let role := if item.role = "" then "first_frame" else item.role
      let n ← countImage role n
      pure ({ item with role := role }, n)

/-- An item of type `video_url` (h3.go:82). -/
def validateVideo (item : GenerationContent) (n : Counts) : Except String (GenerationContent × Counts) :=
  match item.videoURL with
  | none => .error "video_url 必须使用 reference_video role"
  | some video =>
    if item.imageURL.isSome ∨ item.audioURL.isSome ∨ item.text ≠ "" ∨ item.role ≠ "reference_video" then
      .error "video_url 必须使用 reference_video role"
    else do
      validateVideoSource lib video.url
      pure (item, { n with referenceVideos := n.referenceVideos + 1 })

/-- An item of type `audio_url` (h3.go:90). -/
def validateAudio (item : GenerationContent) (n : Counts) : Except String (GenerationContent × Counts) :=
  match item.audioURL with
  | none => .error "audio_url 必须使用 reference_audio role"
  | some audio =>
    if item.imageURL.isSome ∨ item.videoURL.isSome ∨ item.text ≠ "" ∨ item.role ≠ "reference_audio" then
      .error "audio_url 必须使用 reference_audio role"
    else do
      validateAudioSource lib audio.url
      pure (item, { n with referenceAudios := n.referenceAudios + 1 })

/-- The body of the loop of `ValidateCreate` (h3.go:50). -/
def validateItem (item : GenerationContent) (n : Counts) : Except String (GenerationContent × Counts) :=
  if item.type = "text" then validateText lib item n
  else if item.type = "image_url" then validateImage lib item n
  else if item.type = "video_url" then validateVideo lib item n
  else if item.type = "audio_url" then validateAudio lib item n
  else .error "content.type 无效"

def validateItems : List GenerationContent → Counts → Except String (List GenerationContent × Counts)
  | [], n => .ok ([], n)
  | item :: rest, n => do
    let (item, n) ← validateItem lib item n
    let (rest, n) ← validateItems rest n
    pure (item :: rest, n)

/-- `validRatio` (h3.go:240). -/
def validRatio (value : String) : Bool := ["adaptive", "21:9", "16:9", "4:3", "1:1", "3:4", "9:16"].contains value

/-- `config.GenerationProfile`, with the width and height for each ratio. -/
structure GenerationProfile where
  modelMode : String := ""
  customModel : String := ""
  customModelHigh : String := ""
  fps : Int := 0
  easyCache : Bool := false
  steps : Int := 0
  dimensions : List (String × Int × Int)

/-- `ValidatedRequest`. -/
structure ValidatedRequest where
  request : GenerationRequest
  scenario : String
  prompt : String
  width : Int := 0
  height : Int := 0
  inputImageCount : Nat

/-- The scenario and the ratio that follow from the media (h3.go:111). -/
def scenarioOf (hasFrames hasReferences : Bool) (ratio : String) : Except String (String × String) :=
  if hasFrames then .ok ("i2va", "adaptive")
  else if hasReferences then .ok ("r2va", if ratio = "" then "adaptive" else ratio)
  else if ratio = "" ∨ ratio = "adaptive" then .error "t2va 的 ratio 必填且不能为 adaptive"
  else .ok ("t2va", ratio)

/-- The size that the profiles give (h3.go:126). -/
def dimensionOf (profiles : Option (List (String × GenerationProfile))) (resolution ratio : String) : Except String (Int × Int) :=
  match profiles with
  | none => .ok (0, 0)
  | some profiles =>
    match profiles.find? (·.1 == resolution) with
    | none => .error "resolution 仅支持 480P、768P 或 2K"
    | some (_, profile) =>
      match profile.dimensions.find? (·.1 == ratio) with
      | none => .error "ratio 未配置尺寸映射"
      | some (_, dimension) => .ok dimension

/-- `ValidateCreate` (h3.go:31). -/
def validateCreate (profiles : Option (List (String × GenerationProfile))) (request : GenerationRequest) : Except String ValidatedRequest :=
  if request.model ≠ "MiniMax-H3" then .error "model 仅支持 MiniMax-H3"
  else if request.content.length < 1 ∨ request.content.length > 16 then .error "content 数量必须为 1-16"
  else if request.duration < 4 ∨ request.duration > 15 then .error "duration 必须为 4-15 的整数"
  else if request.callbackURL.any (lib.trimSpace · = "") then .error "callback_url 不能为空"
  else do
    let (content, n) ← validateItems lib request.content {}
    if n.text ≠ 1 then .error "content 必须包含且只能包含 1 个 text"
    else if n.first > 1 ∨ n.last > 1 then .error "首帧和尾帧最多各 1 张"
    else if n.referenceImages > 9 ∨ n.referenceVideos > 3 ∨ n.referenceAudios > 3 then .error "参考媒体数量超过限制"
    else
      let hasFrames : Bool := n.first + n.last > 0
      let hasReferences : Bool := n.referenceImages + n.referenceVideos + n.referenceAudios > 0
      if hasFrames && hasReferences then .error "图生视频与多模态参考角色互斥"
      else do
        let (scenario, ratio) ← scenarioOf hasFrames hasReferences request.ratio
        if !validRatio ratio then .error "ratio 无效"
        else do
          let (width, height) ← dimensionOf profiles request.resolution ratio
          pure { request := { request with content := content, ratio := ratio }, scenario := scenario, prompt := n.prompt
                 width := width, height := height, inputImageCount := n.first + n.last + n.referenceImages }

end

theorem except_bind_ok {ε α β : Type} {x : Except ε α} {f : α → Except ε β} {b : β} : (x >>= f) = .ok b ↔ ∃ a, x = .ok a ∧ f a = .ok b := by
  cases x with
  | error e => simp [bind, Except.bind]
  | ok a => simp [bind, Except.bind]

/-- What an accepted request has passed. -/
theorem validateCreate_ok {lib : Library} {profiles : Option (List (String × GenerationProfile))} {request : GenerationRequest}
    {v : ValidatedRequest} (h : validateCreate lib profiles request = .ok v) :
    ∃ n : Counts, validateItems lib request.content {} = .ok (v.request.content, n) ∧ n.text = 1 ∧ ¬(n.first > 1 ∨ n.last > 1)
      ∧ ¬(n.referenceImages > 9 ∨ n.referenceVideos > 3 ∨ n.referenceAudios > 3)
      ∧ scenarioOf (n.first + n.last > 0) (n.referenceImages + n.referenceVideos + n.referenceAudios > 0) request.ratio
        = .ok (v.scenario, v.request.ratio) := by
  rw [validateCreate] at h
  split at h
  · cases h
  split at h
  · cases h
  split at h
  · cases h
  split at h
  · cases h
  simp only [except_bind_ok] at h
  obtain ⟨⟨content, n⟩, valid, h⟩ := h
  dsimp only at h
  split at h
  · cases h
  rename_i texts
  split at h
  · cases h
  rename_i frames
  split at h
  · cases h
  rename_i references
  split at h
  · cases h
  simp only [except_bind_ok] at h
  obtain ⟨⟨scenario, ratio⟩, chosen, h⟩ := h
  dsimp only at h
  split at h
  · cases h
  simp only [except_bind_ok] at h
  obtain ⟨size, -, h⟩ := h
  cases h
  exact ⟨n, valid, by omega, frames, references, chosen⟩

/-! ## Its JSON -/

/-- A member that `omitempty` leaves out. -/
def member (key : String) : Option Json → List (String × Json)
  | none => []
  | some value => [(key, value)]

/-- A string under `omitempty`. -/
def filled (s : String) : Option Json := if s = "" then none else some (.str s)

def mediaJson (media : MediaURL) : Json := .obj [("url", .str media.url)]

/-- `json.Marshal` of a `GenerationContent`. -/
def contentJson (c : GenerationContent) : Json :=
  .obj (("type", .str c.type) :: member "text" (filled c.text) ++ member "image_url" (c.imageURL.map mediaJson)
    ++ member "video_url" (c.videoURL.map mediaJson) ++ member "audio_url" (c.audioURL.map mediaJson) ++ member "role" (filled c.role))

/-- `json.Marshal` of a `GenerationRequest`. -/
def requestJson (r : GenerationRequest) : Json :=
  .obj ([("model", .str r.model), ("content", .arr (r.content.map contentJson)), ("resolution", .str r.resolution),
    ("duration", .num r.duration)] ++ member "ratio" (filled r.ratio) ++ member "callback_url" (r.callbackURL.map .str)
    ++ member "aigc_watermark" (r.aigcWatermark.map .bool))

end MinimaxProxy.Inputs

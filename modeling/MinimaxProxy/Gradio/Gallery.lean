import MinimaxProxy.Legacy.Processor
import MinimaxProxy.Text.Json
import Mathlib.Data.Finset.Card

/-!
# The result of a legacy task

`gradio/mapping.go` and the round of `poll` in `worker/processor.go`: the result of a task is the
video of the gallery that was not there before. The round counts the new URLs as they are
spelled; `UniqueNewVideo` compares their normal forms.
-/

namespace MinimaxProxy.Gradio

/-- `url.URL`. -/
structure URL where
  scheme : String
  opaquePart : String := ""
  user : Option String := none
  host : String
  path : String := ""
  rawPath : String := ""
  forceQuery : Bool := false
  rawQuery : String := ""
  fragment : String := ""
  rawFragment : String := ""
deriving DecidableEq

/-- What is used of Go's library. -/
structure Library where
  /-- `url.Parse`. -/
  parse : String → Option URL
  /-- `URL.String`. -/
  render : URL → String
  toLower : String → String
  equalFold : String → String → Bool
  /-- `path.Clean`. -/
  clean : String → String
  /-- `path.Ext`. -/
  ext : String → String
  /-- `path.Join`. -/
  join : String → String → String

section
variable (lib : Library)

/-- `isVideoURL` (mapping.go:155). -/
def isVideoURL (value : String) : Bool :=
  match lib.parse value with
  | none => false
  | some parsed =>
    if parsed.host = "" ∨ (parsed.scheme ≠ "http" ∧ parsed.scheme ≠ "https") then false
    else lib.toLower (lib.ext parsed.path) = ".mp4" ∨ lib.toLower (lib.ext parsed.path) = ".mov"

/-- `normalizeVideoURL` (mapping.go:164). -/
def normalizeVideoURL (value : String) : Option String :=
  match lib.parse value with
  | none => none
  | some parsed =>
    if parsed.host = "" then none
    else some (lib.render
      { parsed with scheme := lib.toLower parsed.scheme, host := lib.toLower parsed.host, path := lib.clean parsed.path, fragment := "" })

/-- The video URL that a member of an object is. -/
def videoMember (key : String) : Json → List String
  | .str text => if (key = "url" ∨ key = "path") ∧ isVideoURL lib text then [text] else []
  | _ => []

mutual
/-- `collectURLs` (mapping.go:139). -/
def collectURLs : Json → List String
  | .arr items => collectItems items
  | .obj members => collectMembers members
  | _ => []

def collectItems : List Json → List String
  | [] => []
  | item :: rest => collectURLs item ++ collectItems rest

def collectMembers : List (String × Json) → List String
  | [] => []
  | (key, item) :: rest => videoMember lib key item ++ collectURLs item ++ collectMembers rest
end

/-- `GalleryURLs` (mapping.go:86): each URL once, sorted. -/
def galleryURLs (gallery : Json) : List String := (collectURLs lib gallery).dedup.insertionSort (· ≤ ·)

/-- The normal forms of some URLs. -/
def forms (urls : List String) : List String := urls.filterMap (normalizeVideoURL lib)

/-- The URLs of a gallery whose normal form is not among those of a baseline (mapping.go:104). -/
def newVideos (before : List String) (gallery : Json) : List String :=
  (galleryURLs lib gallery).filter fun value => (normalizeVideoURL lib value).any fun normalized => !(forms lib before).contains normalized

/-- `UniqueNewVideo` (mapping.go:97); the error has the number of new videos. -/
def uniqueNewVideo (before : List String) (gallery : Json) : Except Nat String :=
  match newVideos lib before gallery with
  | [video] => .ok video
  | videos => .error videos.length

/-- `RewritePublicURL` (mapping.go:120). -/
def rewritePublicURL (value : String) (privateBase publicBase : URL) : Except String String :=
  match lib.parse value with
  | none => .error "结果 URL 无效"
  | some internal =>
    if internal.host = "" then .error "结果 URL 无效"
    else if !lib.equalFold internal.host privateBase.host then .error "结果 URL 不属于当前上游"
    else
      let path := lib.join publicBase.path internal.path
      .ok (lib.render { publicBase with path := if internal.path.endsWith "/" then path ++ "/" else path, rawPath := "",
                                        rawQuery := internal.rawQuery, fragment := "" })

/-- How the gallery decides a round of `poll`. -/
inductive Detected
  /-- A result is taken, and its public address is computed. -/
  | taken (internalURL : String) (publicURL : Except String String)
  /-- The task fails with the code `result_ambiguous`. -/
  | ambiguous (message : String)
  /-- The round goes on. -/
  | undecided

/-- The part of a round of `poll` that looks at the gallery (processor.go:266). -/
def detect (privateBase publicBase : URL) (baseline : List String) (gallery : Json) : Detected :=
  let newCount := Legacy.countNew baseline (galleryURLs lib gallery)
  if newCount = 1 then
    match uniqueNewVideo lib baseline gallery with
    | .error _ => .ambiguous "无法识别唯一生成视频"
    | .ok internalURL => .taken internalURL (rewritePublicURL lib internalURL privateBase publicBase)
  else if newCount > 1 then .ambiguous "检测到多个新增视频"
  else .undecided

end

section
variable {lib : Library} {baseline : List String} {gallery : Json}

/-! ## The gallery -/

theorem mem_galleryURLs {url : String} : url ∈ galleryURLs lib gallery ↔ url ∈ collectURLs lib gallery := by
  rw [galleryURLs, (List.perm_insertionSort ..).mem_iff, List.mem_dedup]

theorem normalizeVideoURL_isSome {url : String} (h : isVideoURL lib url = true) : (normalizeVideoURL lib url).isSome = true := by
  unfold isVideoURL at h
  unfold normalizeVideoURL
  split at h
  · cases h
  · split at h
    · cases h
    · rename_i bad
      rw [if_neg fun none => bad (.inl none)]
      rfl

theorem videoMember_isVideoURL {key url : String} {item : Json} (h : url ∈ videoMember lib key item) : isVideoURL lib url = true := by
  unfold videoMember at h
  split at h
  · split at h
    · rename_i video
      obtain rfl := List.mem_singleton.mp h
      exact video.2
    · cases h
  · cases h

mutual
theorem collectURLs_isVideoURL {url : String} : ∀ {value : Json}, url ∈ collectURLs lib value → isVideoURL lib url = true
  | .null, h | .bool _, h | .num _, h | .str _, h => by simp only [collectURLs] at h; cases h
  | .arr _, h => by
    simp only [collectURLs] at h
    exact collectItems_isVideoURL h
  | .obj _, h => by
    simp only [collectURLs] at h
    exact collectMembers_isVideoURL h

theorem collectItems_isVideoURL {url : String} : ∀ {items : List Json}, url ∈ collectItems lib items → isVideoURL lib url = true
  | [], h => by simp only [collectItems] at h; cases h
  | item :: rest, h => by
    simp only [collectItems, List.mem_append] at h
    exact h.elim collectURLs_isVideoURL collectItems_isVideoURL

theorem collectMembers_isVideoURL {url : String} :
    ∀ {members : List (String × Json)}, url ∈ collectMembers lib members → isVideoURL lib url = true
  | [], h => by simp only [collectMembers] at h; cases h
  | (key, item) :: rest, h => by
    simp only [collectMembers, List.mem_append] at h
    rcases h with (own | inner) | later
    · exact videoMember_isVideoURL own
    · exact collectURLs_isVideoURL inner
    · exact collectMembers_isVideoURL later
end

/-! ## New URLs -/

variable (lib baseline gallery) in
/-- The URLs of the gallery that the baseline does not spell the same. -/
def respelled : List String := (galleryURLs lib gallery).filter fun url => !baseline.contains url

variable (lib baseline gallery) in
/-- The distinct normal forms in the gallery that are not among those of the baseline. -/
def newForms : Finset String := (forms lib (galleryURLs lib gallery)).toFinset \ (forms lib baseline).toFinset

theorem mem_newVideos {url : String} : url ∈ newVideos lib baseline gallery ↔
    url ∈ galleryURLs lib gallery ∧ ∃ form, normalizeVideoURL lib url = some form ∧ form ∉ forms lib baseline := by
  rw [newVideos, List.mem_filter, Option.any_eq_true]
  simp

/-- A video that is new by its normal form is also spelled anew. -/
theorem newVideos_sublist : (newVideos lib baseline gallery).Sublist (respelled lib baseline gallery) := by
  have same : newVideos lib baseline gallery = (respelled lib baseline gallery).filter
      fun value => (normalizeVideoURL lib value).any fun normalized => !(forms lib baseline).contains normalized := by
    rw [respelled, List.filter_filter, newVideos]
    refine List.filter_congr fun url _ => ?_
    by_cases old : url ∈ baseline
    · cases isForm : normalizeVideoURL lib url with
      | none => simp
      | some form =>
        have : form ∈ forms lib baseline := List.mem_filterMap.mpr ⟨url, old, isForm⟩
        simp [this]
    · simp [old]
  rw [same]
  exact List.filter_sublist

theorem mem_newForms {form : String} : form ∈ newForms lib baseline gallery ↔
    ∃ url ∈ newVideos lib baseline gallery, normalizeVideoURL lib url = some form := by
  simp only [newForms, Finset.mem_sdiff, List.mem_toFinset, forms, List.mem_filterMap]
  constructor
  · rintro ⟨⟨url, mem, isForm⟩, old⟩
    exact ⟨url, mem_newVideos.mpr ⟨mem, form, isForm, by simpa only [forms, List.mem_filterMap] using old⟩, isForm⟩
  · rintro ⟨url, mem, isForm⟩
    obtain ⟨inGallery, form', isForm', old⟩ := mem_newVideos.mp mem
    cases isForm.symm.trans isForm'
    exact ⟨⟨url, inGallery, isForm⟩, by simpa only [forms, List.mem_filterMap] using old⟩

theorem newForms_single {url : String} (h : newVideos lib baseline gallery = [url]) :
    ∃ form, normalizeVideoURL lib url = some form ∧ newForms lib baseline gallery = {form} := by
  obtain ⟨-, form, isForm, -⟩ := mem_newVideos.mp (h ▸ List.mem_singleton_self url)
  refine ⟨form, isForm, Finset.ext fun other => ?_⟩
  rw [mem_newForms, h, Finset.mem_singleton]
  constructor
  · rintro ⟨_, mem, isOther⟩
    rw [List.mem_singleton.mp mem] at isOther
    exact Option.some.inj (isOther.symm.trans isForm)
  · rintro rfl
    exact ⟨url, List.mem_singleton_self url, isForm⟩

theorem newForms_empty (h : newVideos lib baseline gallery = []) : newForms lib baseline gallery = ∅ := by
  refine Finset.eq_empty_of_forall_notMem fun form mem => ?_
  obtain ⟨url, none, -⟩ := mem_newForms.mp mem
  rw [h] at none
  cases none

/-! ## Detection -/

theorem countNew_respelled : Legacy.countNew baseline (galleryURLs lib gallery) = (respelled lib baseline gallery).length := rfl

variable (lib baseline gallery) in
/-- The round as cases of the URLs that are spelled anew. -/
theorem detect_cases (privateBase publicBase : URL) :
    (respelled lib baseline gallery = [] ∧ detect lib privateBase publicBase baseline gallery = .undecided)
    ∨ (∃ url, respelled lib baseline gallery = [url] ∧ newVideos lib baseline gallery = [url]
        ∧ detect lib privateBase publicBase baseline gallery = .taken url (rewritePublicURL lib url privateBase publicBase))
    ∨ (∃ url, respelled lib baseline gallery = [url] ∧ newVideos lib baseline gallery = []
        ∧ ∃ message, detect lib privateBase publicBase baseline gallery = .ambiguous message)
    ∨ (1 < (respelled lib baseline gallery).length ∧ ∃ message,
      detect lib privateBase publicBase baseline gallery = .ambiguous message) := by
  have sub : (newVideos lib baseline gallery).Sublist (respelled lib baseline gallery) := newVideos_sublist
  unfold detect
  rw [countNew_respelled]
  match isNew : respelled lib baseline gallery with
  | [] => exact .inl ⟨rfl, rfl⟩
  | [url] =>
    rw [isNew, List.sublist_singleton] at sub
    rcases sub with none | one
    · exact .inr (.inr (.inl ⟨url, rfl, none, _, by rw [uniqueNewVideo, none]; rfl⟩))
    · exact .inr (.inl ⟨url, rfl, one, by rw [uniqueNewVideo, one]; rfl⟩)
  | first :: second :: rest =>
    refine .inr (.inr (.inr ⟨by simp, "检测到多个新增视频", ?_⟩))
    simp only [List.length_cons]
    rw [if_neg (by omega), if_pos (by omega)]

variable (lib baseline gallery) in
/-- The round takes the one new video, and gives up only where there are several. -/
structure Detects (privateBase publicBase : URL) : Prop where
  takes : (∃ url publicURL, detect lib privateBase publicBase baseline gallery = .taken url publicURL) ↔
    (newForms lib baseline gallery).card = 1
  form : ∀ url publicURL, detect lib privateBase publicBase baseline gallery = .taken url publicURL →
    ∃ form, normalizeVideoURL lib url = some form ∧ newForms lib baseline gallery = {form}
  several : ∀ message, detect lib privateBase publicBase baseline gallery = .ambiguous message → 2 ≤ (newForms lib baseline gallery).card

variable (lib baseline gallery) in
/-- There are several new normal forms, or else no more than one URL that the baseline does not
spell the same, and that one is no other spelling of a URL of the baseline. -/
def Distinguished : Prop :=
  2 ≤ (newForms lib baseline gallery).card ∨
    ((respelled lib baseline gallery).length ≤ 1 ∧
      ∀ url ∈ respelled lib baseline gallery, ∀ form, normalizeVideoURL lib url = some form → form ∉ forms lib baseline)

/-- The round decides by spelling, so it is right where spellings and normal forms agree. -/
theorem detects_iff_distinguished (privateBase publicBase : URL) :
    Detects lib baseline gallery privateBase publicBase ↔ Distinguished lib baseline gallery := by
  rcases detect_cases lib baseline gallery privateBase publicBase with
    ⟨none, step⟩ | ⟨url, one, isNew, step⟩ | ⟨url, one, isOld, message, step⟩ | ⟨many, message, step⟩
  · have empty : newForms lib baseline gallery = ∅ := newForms_empty (List.sublist_nil.mp (none ▸ newVideos_sublist))
    refine ⟨fun _ => .inr ?_, fun _ => ⟨?_, ?_, ?_⟩⟩
    · rw [none]
      exact ⟨Nat.zero_le _, nofun⟩
    · simp [step, empty]
    · simp [step]
    · simp [step]
  · obtain ⟨form, isForm, single⟩ := newForms_single isNew
    refine ⟨fun _ => .inr ?_, fun _ => ⟨?_, ?_, ?_⟩⟩
    · rw [one]
      refine ⟨Nat.le_refl _, fun other mem form' isForm' => ?_⟩
      rw [List.mem_singleton.mp mem] at isForm'
      obtain ⟨-, form'', isForm'', fresh⟩ := mem_newVideos.mp (isNew ▸ List.mem_singleton_self url)
      rwa [Option.some.inj (isForm'.symm.trans isForm'')]
    · simp [step, single]
    · intro other publicURL taken
      rw [step] at taken
      cases taken
      exact ⟨form, isForm, single⟩
    · simp [step]
  · have empty : newForms lib baseline gallery = ∅ := newForms_empty isOld
    refine ⟨fun detects => absurd (detects.several _ step) (by simp [empty]), fun distinguished => ?_⟩
    rcases distinguished with several | ⟨-, fresh⟩
    · simp [empty] at several
    · -- the one URL is a video, so it has a normal form, which is new
      have inGallery : url ∈ galleryURLs lib gallery := (List.mem_filter.mp (one ▸ List.mem_singleton_self url)).1
      have isVideo := collectURLs_isVideoURL (mem_galleryURLs.mp inGallery)
      obtain ⟨form, isForm⟩ := Option.isSome_iff_exists.mp (normalizeVideoURL_isSome isVideo)
      have mem := mem_newVideos.mpr ⟨inGallery, form, isForm, fresh url (one ▸ List.mem_singleton_self url) form isForm⟩
      rw [isOld] at mem
      cases mem
  · refine ⟨fun detects => .inl (detects.several _ step), fun distinguished => ?_⟩
    rcases distinguished with several | ⟨few, -⟩
    · refine ⟨?_, ?_, fun _ _ => several⟩
      · simp only [step, reduceCtorEq, exists_false, false_iff]
        omega
      · simp [step]
    · omega

end

/-- Go's library on the URLs of a video, with and without a fragment. -/
def sampleLibrary : Library where
  parse s :=
    if s = "http://h/a.mp4" then some { scheme := "http", host := "h", path := "/a.mp4" }
    else if s = "http://h/a.mp4#t=1" then some { scheme := "http", host := "h", path := "/a.mp4", fragment := "t=1" }
    else none
  render u := u.scheme ++ "://" ++ u.host ++ u.path ++ if u.fragment = "" then "" else "#" ++ u.fragment
  toLower := id
  equalFold a b := a == b
  clean := id
  ext _ := ".mp4"
  join _ path := path

def sampleBase : URL := { scheme := "http", host := "h" }

/-- One new video under two spellings is called ambiguous. -/
theorem fragment_ambiguous : detect sampleLibrary sampleBase sampleBase []
      (.arr [.obj [("url", .str "http://h/a.mp4")], .obj [("url", .str "http://h/a.mp4#t=1")]]) = .ambiguous "检测到多个新增视频"
    ∧ newForms sampleLibrary [] (.arr [.obj [("url", .str "http://h/a.mp4")],
      .obj [("url", .str "http://h/a.mp4#t=1")]]) = {"http://h/a.mp4"}
    ∧ ¬ Detects sampleLibrary [] (.arr [.obj [("url", .str "http://h/a.mp4")],
      .obj [("url", .str "http://h/a.mp4#t=1")]]) sampleBase sampleBase := by
  have step : detect sampleLibrary sampleBase sampleBase []
      (.arr [.obj [("url", .str "http://h/a.mp4")], .obj [("url", .str "http://h/a.mp4#t=1")]]) = .ambiguous "检测到多个新增视频" := by
    rfl
  have single : newForms sampleLibrary [] (.arr [.obj [("url", .str "http://h/a.mp4")], .obj [("url", .str "http://h/a.mp4#t=1")]])
      = {"http://h/a.mp4"} := by
    decide +kernel
  refine ⟨step, single, fun detects => ?_⟩
  have several := detects.several _ step
  rw [single] at several
  cases several with
  | step h => cases h

end MinimaxProxy.Gradio

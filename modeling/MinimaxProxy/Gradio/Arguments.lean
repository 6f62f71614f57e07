import MinimaxProxy.Inputs.Validation

/-!
# The arguments of a legacy submission

`gradio/mapping.go`: `BuildArguments` puts the media of a validated request into the slots of a
Gradio call. The loop stops the program where Go would, at a missing media field and at an index
out of range.
-/

namespace MinimaxProxy.Gradio
open Inputs

variable {content : List GenerationContent} {item : GenerationContent} {q r : Role} {writes : List (Nat × FileData)}

/-- `FileData`, whose `_type` is always `gradio.FileData`. -/
structure FileData where
  path : String := ""
  url : String := ""
deriving DecidableEq

/-- A value of the `[]any` that is built. -/
inductive Arg
  | null
  | text (s : String)
  | int (n : Int)
  | flag (b : Bool)
  | file (data : FileData)
deriving DecidableEq

/-- How `BuildArguments` ends without arguments. -/
inductive Failure
  | error (message : String)
  | missingMedia
  | outOfRange (index : Nat)
deriving DecidableEq

/-- `fileData` (mapping.go:75). -/
def fileData (value : String) : FileData := { path := value }

/-- `imageData` (mapping.go:79). -/
def imageData (value : String) : FileData := if hasPrefix "data:image/" value then { url := value } else fileData value

/-- The three counters of the loop. -/
structure Indexes where
  imageIndex : Nat := 17
  videoIndex : Nat := 26
  audioIndex : Nat := 29

/-- The field access of a pointer. -/
def deref (media : Option MediaURL) : Except Failure String :=
  match media with
  | none => .error .missingMedia
  | some media => .ok media.url

/-- The body of the loop (mapping.go:48): the slot an item goes to, what is written there, and the counters after it. -/
def place (item : GenerationContent) (ix : Indexes) : Except Failure (Option (Nat × FileData) × Indexes) :=
  if item.role = "first_frame" then do
    let url ← deref item.imageURL
    pure (some (5, imageData url), ix)
  else if item.role = "last_frame" then do
    let url ← deref item.imageURL
    pure (some (6, imageData url), ix)
  else if item.role = "reference_image" then do
    let url ← deref item.imageURL
    pure (some (ix.imageIndex, imageData url), { ix with imageIndex := ix.imageIndex + 1 })
  else if item.role = "reference_video" then do
    let url ← deref item.videoURL
    pure (some (ix.videoIndex, fileData url), { ix with videoIndex := ix.videoIndex + 1 })
  else if item.role = "reference_audio" then do
    let url ← deref item.audioURL
    pure (some (ix.audioIndex, fileData url), { ix with audioIndex := ix.audioIndex + 1 })
  else pure (none, ix)

/-- An assignment to an element. -/
def assign (args : List Arg) : Option (Nat × FileData) → Except Failure (List Arg)
  | none => .ok args
  | some (slot, data) => if slot < args.length then .ok (args.set slot (.file data)) else .error (.outOfRange slot)

/-- The loop over the content. -/
def fill : List GenerationContent → Indexes → List Arg → Except Failure (List Arg)
  | [], _, args => .ok args
  | item :: rest, ix, args => do
    let (write, ix) ← place item ix
    let args ← assign args write
    fill rest ix args

/-- The first part of the call's name for each scenario. -/
def modes : List (String × String) := [("t2va", "文生视频"), ("i2va", "图生视频（首帧/可选尾帧）"), ("r2va", "全能参考生成视频")]

def followModelMode (model : String) : String := if model = "" then "__follow_model_mode__" else model

/-- The arguments before the media are put in (mapping.go:43). -/
def header (mode : String) (request : ValidatedRequest) (profile : GenerationProfile) : List Arg :=
  [.text mode, .text request.prompt, .text "批量单图视频", .null, .text "", .null, .null, .text "match", .text profile.modelMode,
    .text (followModelMode profile.customModel), .text (followModelMode profile.customModelHigh), .flag profile.easyCache,
    .int request.width, .int request.height, .int request.request.duration, .int profile.steps, .int (-1)]
  ++ List.replicate 15 .null

/-- `BuildArguments` (mapping.go:24). -/
def buildArguments (request : ValidatedRequest) (profile : GenerationProfile) : Except Failure (List Arg) :=
  match modes.find? (·.1 == request.scenario) with
  | none => .error (.error "生成场景无效")
  | some (_, mode) =>
    if profile.fps ≠ 0 ∧ profile.fps ≠ 24 then
      .error (.error ("legacy Gradio upstream only supports 24 fps; use the node API for " ++ toString profile.fps ++ " fps"))
    else fill request.request.content {} (header mode request profile)

/-! ## Roles

Each of the five roles of a medium has a block of slots of its own. -/

inductive Role
  | firstFrame
  | lastFrame
  | referenceImage
  | referenceVideo
  | referenceAudio
deriving DecidableEq

namespace Role

def name : Role → String
  | firstFrame => "first_frame"
  | lastFrame => "last_frame"
  | referenceImage => "reference_image"
  | referenceVideo => "reference_video"
  | referenceAudio => "reference_audio"

/-- The first slot of the block. -/
def block : Role → Nat
  | firstFrame => 5
  | lastFrame => 6
  | referenceImage => 17
  | referenceVideo => 26
  | referenceAudio => 29

/-- The slots of the block. -/
def room : Role → Nat
  | firstFrame => 1
  | lastFrame => 1
  | referenceImage => 9
  | referenceVideo => 3
  | referenceAudio => 3

/-- The field that holds the medium. -/
def media : Role → GenerationContent → Option MediaURL
  | firstFrame | lastFrame | referenceImage => (·.imageURL)
  | referenceVideo => (·.videoURL)
  | referenceAudio => (·.audioURL)

/-- What is passed for the medium. -/
def data : Role → String → FileData
  | firstFrame | lastFrame | referenceImage => imageData
  | referenceVideo | referenceAudio => fileData

/-- What `ValidateCreate` counts for the role. -/
def counted : Role → Counts → Nat
  | firstFrame => (·.first)
  | lastFrame => (·.last)
  | referenceImage => (·.referenceImages)
  | referenceVideo => (·.referenceVideos)
  | referenceAudio => (·.referenceAudios)

/-- The slot that the next item of the role goes to. -/
def slot (ix : Indexes) : Role → Nat
  | firstFrame => 5
  | lastFrame => 6
  | referenceImage => ix.imageIndex
  | referenceVideo => ix.videoIndex
  | referenceAudio => ix.audioIndex

/-- The counters after an item of the role. -/
def next (ix : Indexes) : Role → Indexes
  | firstFrame | lastFrame => ix
  | referenceImage => { ix with imageIndex := ix.imageIndex + 1 }
  | referenceVideo => { ix with videoIndex := ix.videoIndex + 1 }
  | referenceAudio => { ix with audioIndex := ix.audioIndex + 1 }

theorem name_injective (h : r.name = q.name) : r = q := by
  cases r <;> cases q <;> first | rfl | exact absurd h (by decide)

theorem name_ne_empty (r : Role) : r.name ≠ "" := by cases r <;> decide

theorem block_in_range (r : Role) : r.block + r.room ≤ 32 := by cases r <;> decide

theorem block_apart (other : r ≠ q) : r.block + r.room ≤ q.block ∨ q.block + q.room ≤ r.block := by
  cases r <;> cases q <;> first | exact absurd rfl other | decide

end Role

/-- The items of a role, in the order of the request. -/
def ofRole (r : Role) (content : List GenerationContent) : List GenerationContent := content.filter (·.role == r.name)

/-- The shape that validation leaves an item in: a text without a role, or a medium with one. -/
def Shaped (item : GenerationContent) : Prop :=
  (item.type = "text" ∧ item.role = "") ∨ (item.type ≠ "text" ∧ ∃ r : Role, item.role = r.name ∧ (r.media item).isSome)

theorem ofRole_cons_self (rest : List GenerationContent) (h : item.role = r.name) :
    ofRole r (item :: rest) = item :: ofRole r rest := List.filter_cons_of_pos (by rw [h, beq_self_eq_true])

theorem ofRole_cons_of_ne (rest : List GenerationContent) (h : item.role ≠ r.name) :
    ofRole r (item :: rest) = ofRole r rest := List.filter_cons_of_neg (by rw [beq_iff_eq]; exact h)

/-! ## What validation counts -/

section
variable {lib : Inputs.Library} {c c' : GenerationContent} {n n' : Counts}

/-- An item adds to the count of its role and to no other. -/
def CountedBy (c' : GenerationContent) (n n' : Counts) : Prop :=
  ∀ r : Role, r.counted n' = r.counted n + (ofRole r [c']).length

theorem countedBy_role (h : c'.role = q.name) (own : q.counted n' = q.counted n + 1)
    (others : ∀ r, r ≠ q → r.counted n' = r.counted n) : CountedBy c' n n' := by
  intro r
  by_cases same : r = q
  · subst same
    rw [own, ofRole_cons_self _ h]
    rfl
  · rw [others r same, ofRole_cons_of_ne _ fun e => same (Role.name_injective (e.symm.trans h))]
    rfl

theorem validateText_shaped (isText : c.type = "text") (h : validateText lib c n = .ok (c', n')) : Shaped c' ∧ CountedBy c' n n' := by
  rw [validateText] at h
  split at h
  · cases h
  split at h
  · cases h
  rename_i plain
  cases h
  have role : c.role = "" := by
    by_contra other
    exact plain (.inr (.inr (.inr other)))
  refine ⟨.inl ⟨isText, role⟩, fun r => ?_⟩
  rw [ofRole_cons_of_ne _ (by rw [role]; exact (Role.name_ne_empty r).symm)]
  cases r <;> rfl

/-- The role that an image is counted for. -/
theorem countImage_ok {role : String} (h : countImage role n = .ok n') :
    ∃ q : Role, role = q.name ∧ q.media = (·.imageURL) ∧ q.counted n' = q.counted n + 1 ∧ ∀ r, r ≠ q → r.counted n' = r.counted n := by
  rw [countImage] at h
  split at h
  · cases h
    exact ⟨.firstFrame, by assumption, rfl, rfl, fun r other => by cases r <;> first | exact absurd rfl other | rfl⟩
  split at h
  · cases h
    exact ⟨.lastFrame, by assumption, rfl, rfl, fun r other => by cases r <;> first | exact absurd rfl other | rfl⟩
  split at h
  · cases h
    exact ⟨.referenceImage, by assumption, rfl, rfl, fun r other => by cases r <;> first | exact absurd rfl other | rfl⟩
  · cases h

theorem validateImage_shaped (isImage : c.type = "image_url") (h : validateImage lib c n = .ok (c', n')) :
    Shaped c' ∧ CountedBy c' n n' := by
  rw [validateImage] at h
  split at h
  · cases h
  rename_i image isURL
  split at h
  · cases h
  simp only [except_bind_ok] at h
  obtain ⟨-, -, m, counted, h⟩ := h
  cases h
  obtain ⟨q, isRole, isMedia, own, others⟩ := countImage_ok counted
  refine ⟨.inr ⟨by rw [isImage]; decide, q, isRole, ?_⟩, countedBy_role isRole own others⟩
  rw [isMedia]
  exact Option.isSome_of_eq_some isURL

theorem validateVideo_shaped (isVideo : c.type = "video_url") (h : validateVideo lib c n = .ok (c', n')) :
    Shaped c' ∧ CountedBy c' n n' := by
  rw [validateVideo] at h
  split at h
  · cases h
  rename_i video isURL
  split at h
  · cases h
  rename_i shape
  simp only [except_bind_ok] at h
  obtain ⟨-, -, h⟩ := h
  cases h
  have role : c.role = Role.referenceVideo.name := by
    by_contra other
    exact shape (.inr (.inr (.inr other)))
  refine ⟨.inr ⟨by rw [isVideo]; decide, _, role, Option.isSome_of_eq_some isURL⟩, countedBy_role role rfl fun r other => ?_⟩
  cases r <;> first | exact absurd rfl other | rfl

theorem validateAudio_shaped (isAudio : c.type = "audio_url") (h : validateAudio lib c n = .ok (c', n')) :
    Shaped c' ∧ CountedBy c' n n' := by
  rw [validateAudio] at h
  split at h
  · cases h
  rename_i audio isURL
  split at h
  · cases h
  rename_i shape
  simp only [except_bind_ok] at h
  obtain ⟨-, -, h⟩ := h
  cases h
  have role : c.role = Role.referenceAudio.name := by
    by_contra other
    exact shape (.inr (.inr (.inr other)))
  refine ⟨.inr ⟨by rw [isAudio]; decide, _, role, Option.isSome_of_eq_some isURL⟩, countedBy_role role rfl fun r other => ?_⟩
  cases r <;> first | exact absurd rfl other | rfl

theorem validateItem_shaped (h : validateItem lib c n = .ok (c', n')) : Shaped c' ∧ CountedBy c' n n' := by
  rw [validateItem] at h
  split at h
  · exact validateText_shaped (by assumption) h
  split at h
  · exact validateImage_shaped (by assumption) h
  split at h
  · exact validateVideo_shaped (by assumption) h
  split at h
  · exact validateAudio_shaped (by assumption) h
  · cases h

/-- The validated items are shaped, and the counts are theirs. -/
theorem validateItems_shaped {items checked : List GenerationContent} (h : validateItems lib items n = .ok (checked, n')) :
    (∀ item ∈ checked, Shaped item) ∧ ∀ r : Role, r.counted n' = r.counted n + (ofRole r checked).length := by
  induction items generalizing n n' checked with
  | nil =>
    cases h
    exact ⟨nofun, fun _ => rfl⟩
  | cons c items ih =>
    simp only [validateItems, except_bind_ok] at h
    obtain ⟨⟨c', m⟩, isFirst, ⟨rest, k⟩, isRest, h⟩ := h
    cases h
    obtain ⟨shaped, counted⟩ := validateItem_shaped isFirst
    obtain ⟨restShaped, restCounted⟩ := ih isRest
    refine ⟨List.forall_mem_cons.mpr ⟨shaped, restShaped⟩, fun r => ?_⟩
    have split : ofRole r (c' :: rest) = ofRole r [c'] ++ ofRole r rest := List.filter_append [c'] rest
    rw [restCounted r, counted r, split, List.length_append, Nat.add_assoc]

/-- An accepted request has room for each of its media. -/
theorem validateCreate_shaped {profiles : Option (List (String × GenerationProfile))} {request : GenerationRequest} {v : ValidatedRequest}
    (h : validateCreate lib profiles request = .ok v) :
    (∀ item ∈ v.request.content, Shaped item) ∧ ∀ r : Role, (ofRole r v.request.content).length ≤ r.room := by
  obtain ⟨n, valid, -, frames, references, -⟩ := validateCreate_ok h
  obtain ⟨shaped, counted⟩ := validateItems_shaped valid
  refine ⟨shaped, fun r => ?_⟩
  have count : r.counted n = (ofRole r v.request.content).length := by
    rw [counted r]
    cases r <;> exact Nat.zero_add _
  rw [← count]
  cases r <;> simp only [Role.counted, Role.room] <;> omega

end

/-! ## The loop -/

namespace Role

theorem slot_next_self (r : Role) (ix : Indexes) : r.slot (r.next ix) = r.slot ix + 1 ∨ (r.slot (r.next ix) = r.slot ix ∧ r.room = 1) := by
  cases r with
  | firstFrame | lastFrame => exact .inr ⟨rfl, rfl⟩
  | referenceImage | referenceVideo | referenceAudio => exact .inl rfl

theorem slot_next_of_ne (ix : Indexes) (other : r ≠ q) : r.slot (q.next ix) = r.slot ix := by
  cases r <;> cases q <;> first | rfl | exact absurd rfl other

end Role

theorem place_role {media : MediaURL} (ix : Indexes) (isRole : item.role = r.name)
    (isMedia : r.media item = some media) : place item ix = .ok (some (r.slot ix, r.data media.url), r.next ix) := by
  cases r <;> simp only [Role.name] at isRole <;> simp only [Role.media] at isMedia <;>
    simp [place, isRole, isMedia, deref, bind, Except.bind, pure, Except.pure, Role.slot, Role.data, Role.next]

theorem place_text (ix : Indexes) (isRole : item.role = "") : place item ix = .ok (none, ix) := by
  simp [place, isRole, pure, Except.pure]

/-- The writes of the loop, in their order. -/
def mediaWrites : List GenerationContent → Indexes → Except Failure (List (Nat × FileData))
  | [], _ => .ok []
  | item :: rest, ix => do
    let (write, ix) ← place item ix
    let writes ← mediaWrites rest ix
    pure (write.toList ++ writes)

/-- The arguments after some writes. -/
def written (args : List Arg) (writes : List (Nat × FileData)) : List Arg :=
  writes.foldl (fun args write => args.set write.1 (.file write.2)) args

theorem written_length (args : List Arg) (writes : List (Nat × FileData)) : (written args writes).length = args.length := by
  induction writes generalizing args with
  | nil => rfl
  | cons write writes ih => exact (ih _).trans List.length_set

theorem written_other (args : List Arg) {slot : Nat} (absent : slot ∉ writes.map Prod.fst) :
    (written args writes)[slot]? = args[slot]? := by
  induction writes generalizing args with
  | nil => rfl
  | cons write writes ih =>
    rw [List.map_cons, List.mem_cons, not_or] at absent
    exact (ih _ absent.2).trans (List.getElem?_set_ne (Ne.symm absent.1))

/-- A slot written once holds what was written. -/
theorem written_at (args : List Arg) (once : (writes.map Prod.fst).Nodup) {slot : Nat} {data : FileData}
    (mem : (slot, data) ∈ writes) (inRange : slot < args.length) : (written args writes)[slot]? = some (.file data) := by
  induction writes generalizing args with
  | nil => cases mem
  | cons write writes ih =>
    obtain ⟨fresh, once⟩ := List.nodup_cons.mp once
    rcases List.mem_cons.mp mem with rfl | later
    · exact (written_other _ fresh).trans (List.getElem?_set_self inRange)
    · exact ih _ once later (List.length_set.symm ▸ inRange)

/-- The loop makes its writes when all are in range. -/
theorem fill_written {ix : Indexes} (args : List Arg) (h : mediaWrites content ix = .ok writes)
    (inRange : ∀ write ∈ writes, write.1 < args.length) :
    fill content ix args = .ok (written args writes) := by
  induction content generalizing ix args writes with
  | nil =>
    cases h
    rfl
  | cons item rest ih =>
    simp only [mediaWrites, except_bind_ok] at h
    obtain ⟨⟨write, ix'⟩, placed, later, isLater, h⟩ := h
    cases h
    rw [fill, placed]
    cases write with
    | none => exact ih args isLater inRange
    | some write =>
      obtain ⟨first, inRest⟩ := List.forall_mem_cons.mp inRange
      have assigned : assign args (some write) = .ok (args.set write.1 (.file write.2)) := if_pos first
      have continued := ih (args.set write.1 (.file write.2)) isLater (by rw [List.length_set]; exact inRest)
      simpa only [bind, Except.bind, assigned, written, Option.toList_some,
        List.cons_append, List.nil_append, List.foldl_cons] using continued

/-- A role's next slot is in its block, with room for the items that are left. -/
def Fits (content : List GenerationContent) (ix : Indexes) (r : Role) : Prop :=
  r.block ≤ r.slot ix ∧ r.slot ix + (ofRole r content).length ≤ r.block + r.room

/-- What the writes for some content are, from given counters. -/
structure Places (content : List GenerationContent) (ix : Indexes) (writes : List (Nat × FileData)) : Prop where
  /-- One for each medium. -/
  length : writes.length = (content.filter (·.type != "text")).length
  once : (writes.map Prod.fst).Nodup
  within : ∀ write ∈ writes, ∃ r : Role, r.slot ix ≤ write.1 ∧ write.1 < r.slot ix + (ofRole r content).length
  /-- The items of a role follow each other. -/
  placed : ∀ (r : Role) (i : Nat) (item : GenerationContent), (ofRole r content)[i]? = some item →
    ∃ media, r.media item = some media ∧ (r.slot ix + i, r.data media.url) ∈ writes

section
variable {item : GenerationContent} {rest : List GenerationContent} {ix : Indexes} {q : Role}

theorem Fits.next (isRole : item.role = q.name) (fits : ∀ r, Fits (item :: rest) ix r) (r : Role) : Fits rest (q.next ix) r := by
  obtain ⟨above, below⟩ := fits r
  by_cases same : r = q
  · subst same
    rw [ofRole_cons_self _ isRole, List.length_cons] at below
    unfold Fits
    rcases r.slot_next_self ix with next | ⟨next, room⟩ <;> rw [next] <;> omega
  · rw [ofRole_cons_of_ne _ fun e => same (Role.name_injective (e.symm.trans isRole))] at below
    unfold Fits
    rw [Role.slot_next_of_ne ix same]
    exact ⟨above, below⟩

/-- The slots of a role's later items come after this one. -/
theorem slot_next_lt (isRole : item.role = q.name) (fits : Fits (item :: rest) ix q) {i : Nat} (more : i < (ofRole q rest).length) :
    q.slot (q.next ix) + i = q.slot ix + (i + 1) := by
  obtain ⟨above, below⟩ := fits
  rw [ofRole_cons_self _ isRole, List.length_cons] at below
  rcases q.slot_next_self ix with next | ⟨-, room⟩ <;> omega

/-- An item of a role, before the writes of the rest. -/
theorem Places.cons {media : MediaURL} (isMedia : item.type ≠ "text") (isRole : item.role = q.name)
    (found : q.media item = some media) (fits : ∀ r, Fits (item :: rest) ix r) (later : Places rest (q.next ix) writes) :
    Places (item :: rest) ix ((q.slot ix, q.data media.url) :: writes) := by
  have others : ∀ {r : Role}, r ≠ q → ofRole r (item :: rest) = ofRole r rest := fun other =>
    ofRole_cons_of_ne _ fun e => other (Role.name_injective (e.symm.trans isRole))
  have own : ofRole q (item :: rest) = item :: ofRole q rest := ofRole_cons_self _ isRole
  constructor
  case length => rw [List.filter_cons_of_pos (by rw [bne_iff_ne]; exact isMedia), List.length_cons, List.length_cons, later.length]
  case once =>
    refine List.nodup_cons.mpr ⟨fun again => ?_, later.once⟩
    obtain ⟨write, mem, same⟩ := List.mem_map.mp again
    obtain ⟨r, low, high⟩ := later.within write mem
    by_cases isOwn : r = q
    · subst isOwn
      have after := slot_next_lt isRole (fits r) (i := write.1 - r.slot (r.next ix)) (by omega)
      omega
    · rw [Role.slot_next_of_ne ix isOwn] at low high
      have atR := fits r
      have atQ := fits q
      have apart := Role.block_apart isOwn
      unfold Fits at atR atQ
      rw [others isOwn] at atR
      rw [own, List.length_cons] at atQ
      omega
  case within =>
    refine List.forall_mem_cons.mpr ⟨⟨q, Nat.le_refl _, by rw [own, List.length_cons]; omega⟩, fun write mem => ?_⟩
    obtain ⟨r, low, high⟩ := later.within write mem
    refine ⟨r, ?_⟩
    by_cases isOwn : r = q
    · subst isOwn
      have after := slot_next_lt isRole (fits r) (i := write.1 - r.slot (r.next ix)) (by omega)
      rw [own, List.length_cons]
      omega
    · rw [Role.slot_next_of_ne ix isOwn] at low high
      rw [others isOwn]
      exact ⟨low, high⟩
  case placed =>
    intro r i found' at_i
    by_cases isOwn : r = q
    · subst isOwn
      rw [own] at at_i
      cases i with
      | zero =>
        obtain rfl : item = found' := Option.some.inj at_i
        exact ⟨media, found, List.mem_cons_self ..⟩
      | succ i =>
        obtain ⟨media', isMedia', mem⟩ := later.placed r i found' at_i
        rw [List.getElem?_cons_succ] at at_i
        rw [slot_next_lt isRole (fits r) (List.getElem?_eq_some_iff.mp at_i).1] at mem
        exact ⟨media', isMedia', List.mem_cons_of_mem _ mem⟩
    · rw [others isOwn] at at_i
      obtain ⟨media', isMedia', mem⟩ := later.placed r i found' at_i
      rw [Role.slot_next_of_ne ix isOwn] at mem
      exact ⟨media', isMedia', List.mem_cons_of_mem _ mem⟩

end

/-- A run of the loop over shaped content whose roles have room. -/
theorem mediaWrites_places (ix : Indexes) (shaped : ∀ item ∈ content, Shaped item)
    (fits : ∀ r, Fits content ix r) : ∃ writes, mediaWrites content ix = .ok writes ∧ Places content ix writes := by
  induction content generalizing ix with
  | nil => exact ⟨[], rfl, rfl, List.nodup_nil, nofun, fun _ _ _ h => nomatch h⟩
  | cons item rest ih =>
    obtain ⟨first, others⟩ := List.forall_mem_cons.mp shaped
    rcases first with ⟨isText, noRole⟩ | ⟨isMedia, q, isRole, found⟩
    · have skip : ∀ r, ofRole r (item :: rest) = ofRole r rest := fun r =>
        ofRole_cons_of_ne _ (by rw [noRole]; exact (Role.name_ne_empty r).symm)
      obtain ⟨writes, made, places⟩ := ih ix others (by simpa only [Fits, skip] using fits)
      refine ⟨writes, by rw [mediaWrites, place_text ix noRole]; simp [bind, Except.bind, made, pure, Except.pure], ?_⟩
      refine ⟨?_, places.once, by simpa only [skip] using places.within, by simpa only [skip] using places.placed⟩
      rw [List.filter_cons_of_neg (by simp [isText])]
      exact places.length
    · obtain ⟨media, isURL⟩ := Option.isSome_iff_exists.mp found
      obtain ⟨writes, made, places⟩ := ih (q.next ix) others (Fits.next isRole fits)
      refine ⟨_, ?_, places.cons isMedia isRole isURL fits⟩
      rw [mediaWrites, place_role ix isRole isURL]
      simp [bind, Except.bind, made, pure, Except.pure]

/-! ## The layout -/

/-- The layout of the arguments of a request. -/
structure Layout (content : List GenerationContent) (args : List Arg) : Prop where
  length : args.length = 32
  /-- The items of a role are in its block, in the order of the request. -/
  placed : ∀ (r : Role) (i : Nat) (item : GenerationContent), (ofRole r content)[i]? = some item →
    i < r.room ∧ ∃ media, r.media item = some media ∧ args[r.block + i]? = some (.file (r.data media.url))
  /-- Every medium has a role. -/
  kept : ∀ item ∈ content, item.type ≠ "text" → ∃ r : Role, item ∈ ofRole r content
  /-- The loop writes one slot for each medium, and none twice. -/
  once : ∃ writes, mediaWrites content {} = .ok writes ∧ (writes.map Prod.fst).Nodup
    ∧ writes.length = (content.filter (·.type != "text")).length

theorem header_length (mode : String) (request : ValidatedRequest) (profile : GenerationProfile) :
    (header mode request profile).length = 32 := rfl

theorem slot_start (r : Role) : r.slot {} = r.block := by cases r <;> rfl

/-- The loop runs through on shaped content that fits the blocks. -/
theorem fill_layout {args : List Arg} (length : args.length = 32) (shaped : ∀ item ∈ content, Shaped item)
    (room : ∀ r : Role, (ofRole r content).length ≤ r.room) : ∃ filled, fill content {} args = .ok filled ∧ Layout content filled := by
  have fits : ∀ r, Fits content {} r := fun r => by
    have := room r
    unfold Fits
    rw [slot_start]
    omega
  obtain ⟨writes, made, places⟩ := mediaWrites_places {} shaped fits
  have inRange : ∀ write ∈ writes, write.1 < args.length := fun write mem => by
    obtain ⟨r, -, high⟩ := places.within write mem
    have := (fits r).2
    have := r.block_in_range
    omega
  refine ⟨_, fill_written args made inRange, (written_length ..).trans length, ?_, ?_, writes, made, places.once, places.length⟩
  · intro r i item at_i
    obtain ⟨media, found, mem⟩ := places.placed r i item at_i
    rw [slot_start] at mem
    have := (List.getElem?_eq_some_iff.mp at_i).1
    exact ⟨Nat.lt_of_lt_of_le this (room r), media, found, written_at args places.once mem (inRange _ mem)⟩
  · intro item mem isMedia
    rcases shaped item mem with ⟨isText, -⟩ | ⟨-, r, isRole, -⟩
    · exact absurd isText isMedia
    · exact ⟨r, List.mem_filter.mpr ⟨mem, by rw [isRole, beq_self_eq_true]⟩⟩

/-- Every scenario of a validated request has its mode. -/
theorem scenario_mode {frames references : Bool} {ratio scenario ratio' : String}
    (chosen : scenarioOf frames references ratio = .ok (scenario, ratio')) :
    ∃ mode, modes.find? (·.1 == scenario) = some (scenario, mode) := by
  rw [scenarioOf] at chosen
  split at chosen
  · cases chosen
    exact ⟨_, rfl⟩
  split at chosen
  · cases chosen
    exact ⟨_, rfl⟩
  split at chosen
  · cases chosen
  · cases chosen
    exact ⟨_, rfl⟩

/-- A validated request never stops `BuildArguments`, and its media are where they belong. -/
theorem buildArguments_layout {lib : Inputs.Library} {profiles : Option (List (String × GenerationProfile))} {request : GenerationRequest}
    {v : ValidatedRequest} (accepted : validateCreate lib profiles request = .ok v) (profile : GenerationProfile) :
    (∀ failure, buildArguments v profile = .error failure → ∃ message, failure = .error message)
    ∧ (∀ args, buildArguments v profile = .ok args → Layout v.request.content args)
    ∧ (profile.fps = 0 ∨ profile.fps = 24 → ∃ args, buildArguments v profile = .ok args) := by
  obtain ⟨shaped, room⟩ := validateCreate_shaped accepted
  obtain ⟨n, -, -, -, -, chosen⟩ := validateCreate_ok accepted
  obtain ⟨mode, isMode⟩ := scenario_mode chosen
  obtain ⟨filled, filling, layout⟩ := fill_layout (header_length mode v profile) shaped room
  rw [buildArguments, isMode]
  dsimp only
  split
  · refine ⟨fun failure h => ⟨_, (Except.error.inj h).symm⟩, nofun, fun fps => ?_⟩
    omega
  · rw [filling]
    refine ⟨nofun, fun args h => ?_, fun _ => ⟨filled, rfl⟩⟩
    cases h
    exact layout

/-- A request with two reference images and a video. -/
def referenceRequest : GenerationRequest :=
  { model := "MiniMax-H3", duration := 5
    content := [{ type := "image_url", imageURL := some ⟨"mm_file://a"⟩, role := "reference_image" }, { type := "text", text := "a cat" },
      { type := "video_url", videoURL := some ⟨"mm_file://b"⟩, role := "reference_video" },
      { type := "image_url", imageURL := some ⟨"mm_file://c"⟩, role := "reference_image" }] }

def uploadLibrary : Inputs.Library where
  parse _ := none
  trimSpace := id
  toLower := id
  equalFold a b := a == b
  sha256 := id
  size _ := 0
  rel _ path := some path

/-- Its media are where they belong. -/
theorem buildArguments_layout_references : ∃ v args, validateCreate uploadLibrary none referenceRequest = .ok v
    ∧ buildArguments v { dimensions := [] } = .ok args ∧ Layout v.request.content args := by
  obtain ⟨v, accepted⟩ : ∃ v, validateCreate uploadLibrary none referenceRequest = .ok v := ⟨_, by rfl⟩
  obtain ⟨-, layout, returns⟩ := buildArguments_layout accepted { dimensions := [] }
  obtain ⟨args, built⟩ := returns (.inl rfl)
  exact ⟨v, args, accepted, built, layout args built⟩

end MinimaxProxy.Gradio

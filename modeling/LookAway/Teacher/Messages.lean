/-
  Teacher messages of verl/trainer/ppo/ray_trainer.py: the prompt of a sample with the images of
  one view in the places of its own.

  What PIL does is a parameter (`Pil`). `extract_prepared`: the processor gets the images of that
  view, in their order, and no others.
-/
import LookAway.Base.Control
import Mathlib.Data.List.Forall2
import Mathlib.Tactic.Common

namespace LookAway.Teacher

open LookAway.Base

/-- What the construction of the teacher inputs and the forward raise. -/
inductive TeacherError where
  | keyError (text : String)
  | valueError (text : String)
  | typeError (text : String)
  /-- The `ValueError` of a response with vision special tokens. -/
  | visualTokens (sampleIdx : ℕ) (badTokens : List (ℕ × ℕ × String))
  | indexError
  | runtimeError
  /-- An error of PIL, the processor or the tokenizer. -/
  | external (text : String)
  deriving DecidableEq, Repr

/-! ## Images -/

/-- An entry of an image column, or the value under a key of an image item. `Px` is a PIL image. -/
inductive TeacherImage (Px : Type) where
  | null
  | decoded (px : Px)
  | file (path : String)
  /-- A dict with the key "image". -/
  | wrapped (image : TeacherImage Px) (bytes : Option (List UInt8)) (path : Option String)
  /-- A dict without it; `path` is `none` where the key is absent. -/
  | stored (bytes : Option (List UInt8)) (path : Option (Option String))
  | other (typeName : String)

/-- PIL. -/
structure Pil (Px : Type) where
  convertRgb : Px → Px
  openFile : String → Except TeacherError Px
  openBytes : List UInt8 → Except TeacherError Px

variable {Px : Type}

/-- `_normalize_teacher_image`. -/
def normalizeTeacherImage (pil : Pil Px) : TeacherImage Px → Except TeacherError Px
  | .decoded px => .ok (pil.convertRgb px)
  | .file path => (pil.openFile path).map pil.convertRgb
  | .wrapped image _ _ => normalizeTeacherImage pil image
  | .stored (some bytes) _ => (pil.openBytes bytes).map pil.convertRgb
  | .stored none (some (some path)) => (pil.openFile path).map pil.convertRgb
  | .stored none (some none) => .error (.external "Image.open(None)")
  | .stored none none => .error (.typeError "Unsupported teacher image type: <class 'dict'>")
  | .null => .error (.typeError "Unsupported teacher image type: <class 'NoneType'>")
  | .other typeName => .error (.typeError s!"Unsupported teacher image type: {typeName}")

/-- The test of `_teacher_images_available` on one image. -/
def TeacherImage.available : TeacherImage Px → Bool
  | .null => false
  | .file path => path ≠ ""
  | .wrapped .null bytes path => (path.any (· ≠ "")) || bytes.isSome
  | .wrapped _ _ _ => true
  | .stored bytes path => (path.join.any (· ≠ "")) || bytes.isSome
  | .decoded _ => true
  | .other _ => true

/-- `_teacher_images_available`, on a list. -/
def teacherImagesAvailable (images : List (TeacherImage Px)) : Bool :=
  images.any TeacherImage.available

/-! ## Messages -/

/-- An item of a content list; an image item has the image under one of three keys. -/
inductive Item (Px : Type) where
  | text (text : String)
  | image (image : Option (TeacherImage Px)) (path : Option (TeacherImage Px))
      (bytes : Option (List UInt8))
  | other

inductive Content (Px : Type) where
  | text (text : String)
  | items (items : List (Item Px))
  | other

structure Message (Px : Type) where
  role : String
  content : Content Px

/-- The image `_extract_images_from_messages` takes from an item. -/
def Item.source : Item Px → Option (TeacherImage Px)
  | .image (some source) _ _ => some source
  | .image none (some source) _ => some source
  | .image none none (some bytes) => some (.stored (some bytes) none)
  | _ => none

def Content.sources : Content Px → List (TeacherImage Px)
  | .items list => list.filterMap Item.source
  | _ => []

/-- The images of the messages, in their order. -/
def sources (messages : List (Message Px)) : List (TeacherImage Px) :=
  messages.flatMap (·.content.sources)

/-- `_extract_images_from_messages`. -/
def extractImagesFromMessages (pil : Pil Px) (messages : List (Message Px)) :
    Except TeacherError (List Px) :=
  (sources messages).mapM (normalizeTeacherImage pil)

/-! ## Placing the images of a view -/

/-- A computation that threads `image_offset`. -/
abbrev Placing := StateT ℕ (Except TeacherError)

/-- The image at `image_offset`; the offset moves on. -/
def nextImage {α : Type} (images : List α) (tooFew : String) : Placing α := fun offset =>
  match images[offset]? with
  | none => .error (.valueError s!"{tooFew}={images.length}, image_offset={offset}")
  | some image => .ok (image, offset + 1)

/-- An item of `_swap_images_in_messages`. -/
def swapItem (pil : Pil Px) (images : List (TeacherImage Px)) : Item Px → Placing (Item Px)
  | .image _ _ _ => do
      let image ← nextImage images
        "Teacher image count is smaller than prompt image count: len(teacher_images)"
      let px ← (normalizeTeacherImage pil image : Except TeacherError Px)
      return .image (some (.decoded px)) none none
  | item => return item

def swapMessage (pil : Pil Px) (images : List (TeacherImage Px)) (message : Message Px) :
    Placing (Message Px) :=
  match message.content with
  | .items items => do
      let new ← items.mapM (swapItem pil images)
      return { message with content := .items new }
  | _ => return message

/-- `_swap_images_in_messages`. -/
def swapImagesInMessages (pil : Pil Px) (messages : List (Message Px))
    (images : List (TeacherImage Px)) : Except TeacherError (List (Message Px)) := do
  let (new, offset) ← messages.mapM (swapMessage pil images) 0
  if offset = images.length then
    return new
  else
    .error (.valueError ("Teacher image count does not match prompt image placeholders: " ++
      s!"len(teacher_images)={images.length}, image_offset={offset}"))

/-- `re.split(r"(<image>)", content)` without its empty segments. -/
def segments (content : String) : List String :=
  ((content.splitOn "<image>").intersperse "<image>").filter (· ≠ "")

/-- A segment of `_build_teacher_messages_from_template`. -/
def placeSegment (normalized : List Px) (segment : String) : Placing (Item Px) :=
  if segment = "<image>" then do
    let px ← nextImage normalized
      "Teacher image count is smaller than teacher_prompt placeholders: len(normalized_images)"
    return .image (some (.decoded px)) none none
  else return .text segment

def placeMessage (normalized : List Px) (message : Message Px) : Placing (Message Px) :=
  match message.content with
  | .text content => do
      let new ← (segments content).mapM (placeSegment normalized)
      return { message with content := .items new }
  | _ => return message

/-- `_build_teacher_messages_from_template`. -/
def buildTeacherMessagesFromTemplate (pil : Pil Px) (messages : List (Message Px))
    (images : List (TeacherImage Px)) : Except TeacherError (List (Message Px)) := do
  let normalized ← images.mapM (normalizeTeacherImage pil)
  let (new, offset) ← messages.mapM (placeMessage normalized) 0
  if offset = normalized.length then
    return new
  else
    .error (.valueError ("Teacher image count does not match teacher_prompt placeholders: " ++
      s!"len(normalized_images)={normalized.length}, image_offset={offset}"))

/-- `_prepare_teacher_messages`. -/
def prepareTeacherMessages (pil : Pil Px) (promptMessages : List (Message Px))
    (teacherImages : List (TeacherImage Px)) (teacherPromptMessages : Option (List (Message Px))) :
    Except TeacherError (List (Message Px)) :=
  match teacherPromptMessages with
  | some messages => buildTeacherMessagesFromTemplate pil messages teacherImages
  | none => swapImagesInMessages pil promptMessages teacherImages

/-! ## The images of the result -/

section Places

variable {α β γ δ : Type} {R : α → γ → Prop} {images : List α}

/-- What `x` returns holds, by `g`, the next images in their order. -/
def Places (R : α → γ → Prop) (images : List α) (g : β → List γ) (x : Placing β) : Prop :=
  ∀ offset b offset', x offset = .ok (b, offset') →
    ∃ taken, images.drop offset = taken ++ images.drop offset' ∧ List.Forall₂ R taken (g b)

theorem places_pure {g : β → List γ} {b : β} (h : g b = []) : Places R images g (pure b) := by
  intro offset b' offset' hrun
  obtain ⟨rfl, rfl⟩ : b = b' ∧ offset = offset' := by
    cases hrun
    exact ⟨rfl, rfl⟩
  exact ⟨[], by simp, by rw [h]; exact .nil⟩

theorem places_bind {g : β → List γ} {g' : δ → List γ} {x : Placing β} {f : β → Placing δ}
    {k : β → δ} (hx : Places R images g x) (hf : ∀ b, f b = pure (k b)) (hk : ∀ b, g' (k b) = g b) :
    Places R images g' (x >>= f) := by
  intro offset d offset' hrun
  obtain ⟨⟨b, mid⟩, hb, hrest⟩ := except_bind_ok.mp hrun
  obtain ⟨taken, hdrop, htaken⟩ := hx offset b mid hb
  simp only [hf] at hrest
  cases hrest
  exact ⟨taken, hdrop, by rw [hk]; exact htaken⟩

/-- One step lemma for each element gives the run over the list. -/
theorem places_mapM {g : δ → List γ} {f : β → Placing δ} {bs : List β}
    (hf : ∀ b ∈ bs, Places R images g (f b)) : Places R images (·.flatMap g) (bs.mapM f) := by
  induction bs with
  | nil =>
      rw [List.mapM_nil]
      exact places_pure rfl
  | cons b bs ih =>
      rw [List.mapM_cons]
      intro offset ds offset' hrun
      obtain ⟨⟨d, mid⟩, hd, hrun⟩ := except_bind_ok.mp hrun
      obtain ⟨⟨rest, last⟩, hrest, hend⟩ := except_bind_ok.mp hrun
      cases hend
      obtain ⟨taken, hdrop, htaken⟩ := hf b (by simp) offset d mid hd
      obtain ⟨taken', hdrop', htaken'⟩ := ih (fun b' hb' => hf b' (by simp [hb'])) mid rest offset'
        hrest
      refine ⟨taken ++ taken', ?_, ?_⟩
      · rw [hdrop, hdrop', List.append_assoc]
      · show List.Forall₂ R (taken ++ taken') ((d :: rest).flatMap g)
        rw [List.flatMap_cons]
        exact List.rel_append htaken htaken'

theorem nextImage_ok {tooFew : String} {offset offset' : ℕ} {image : α}
    (h : nextImage images tooFew offset = .ok (image, offset')) :
    images.drop offset = image :: images.drop offset' := by
  unfold nextImage at h
  cases hget : images[offset]? with
  | none =>
      rw [hget] at h
      cases h
  | some found =>
      rw [hget] at h
      cases h
      obtain ⟨hlt, rfl⟩ := List.getElem?_eq_some_iff.mp hget
      exact List.drop_eq_getElem_cons hlt

/-- A run that takes every image places them all. -/
theorem placed_all {g : δ → List γ} {x : Placing δ} (hx : Places R images g x) {d : δ}
    (h : x 0 = .ok (d, images.length)) : List.Forall₂ R images (g d) := by
  obtain ⟨taken, hdrop, htaken⟩ := hx 0 d images.length h
  simp only [List.drop_zero, List.drop_length, List.append_nil] at hdrop
  rw [hdrop]
  exact htaken

end Places

section Placed

variable {pil : Pil Px} {images : List (TeacherImage Px)}

/-- `source` is the image, decoded. -/
def Decodes (pil : Pil Px) (image source : TeacherImage Px) : Prop :=
  ∃ px, normalizeTeacherImage pil image = .ok px ∧ source = .decoded px

theorem swapItem_places (item : Item Px) :
    Places (Decodes pil) images (·.source.toList) (swapItem pil images item) := by
  cases item with
  | text text => exact places_pure rfl
  | other => exact places_pure rfl
  | image source path bytes =>
      intro offset item' offset' hrun
      obtain ⟨⟨image, mid⟩, hnext, hrun⟩ := except_bind_ok.mp hrun
      obtain ⟨⟨px, last⟩, hpx, hend⟩ := except_bind_ok.mp hrun
      cases hend
      obtain ⟨px', hpx', hlift⟩ := except_bind_ok.mp hpx
      cases hlift
      refine ⟨[image], nextImage_ok hnext, ?_⟩
      exact .cons ⟨px, hpx', rfl⟩ .nil

theorem swapMessage_places (message : Message Px) :
    Places (Decodes pil) images (·.content.sources) (swapMessage pil images message) := by
  unfold swapMessage
  cases hcontent : message.content with
  | text text => exact places_pure (by simp [hcontent, Content.sources])
  | other => exact places_pure (by simp [hcontent, Content.sources])
  | items items =>
      refine places_bind (places_mapM fun item _ => swapItem_places item)
        (k := fun new => { message with content := .items new }) (fun new => rfl) fun new => ?_
      simp [Content.sources, List.filterMap_eq_flatMap_toList]

/-- The swapped messages have the images of the view in the order of its column. -/
theorem sources_swapped {messages out : List (Message Px)}
    (h : swapImagesInMessages pil messages images = .ok out) :
    List.Forall₂ (Decodes pil) images (sources out) := by
  obtain ⟨⟨new, offset⟩, hrun, hend⟩ := except_bind_ok.mp h
  simp only at hend
  split at hend
  · rename_i hlength
    cases hend
    subst hlength
    exact placed_all (places_mapM fun message _ => swapMessage_places message) hrun
  · cases hend

theorem placeSegment_places {normalized : List Px} (segment : String) :
    Places (fun px source => source = TeacherImage.decoded px) normalized (·.source.toList)
      (placeSegment normalized segment) := by
  unfold placeSegment
  split
  · intro offset item' offset' hrun
    obtain ⟨⟨px, mid⟩, hnext, hend⟩ := except_bind_ok.mp hrun
    cases hend
    exact ⟨[px], nextImage_ok hnext, .cons rfl .nil⟩
  · exact places_pure rfl

theorem placeMessage_places {normalized : List Px} {message : Message Px}
    (h : message.content.sources = []) :
    Places (fun px source => source = TeacherImage.decoded px) normalized (·.content.sources)
      (placeMessage normalized message) := by
  unfold placeMessage
  cases hcontent : message.content with
  | items items => exact places_pure h
  | other => exact places_pure h
  | text text =>
      refine places_bind (places_mapM fun segment _ => placeSegment_places segment)
        (k := fun new => { message with content := .items new }) (fun new => rfl) fun new => ?_
      simp [Content.sources, List.filterMap_eq_flatMap_toList]

/-- A template has no images of its own: its placeholders get those of the view, in order. -/
theorem sources_placed {template out : List (Message Px)} (hown : sources template = [])
    (h : buildTeacherMessagesFromTemplate pil template images = .ok out) :
    ∃ normalized, images.mapM (normalizeTeacherImage pil) = .ok normalized ∧
      List.Forall₂ (fun px source => source = .decoded px) normalized (sources out) := by
  obtain ⟨normalized, hnormalized, h⟩ := except_bind_ok.mp h
  obtain ⟨⟨new, offset⟩, hrun, hend⟩ := except_bind_ok.mp h
  simp only at hend
  split at hend
  · rename_i hlength
    cases hend
    subst hlength
    refine ⟨normalized, hnormalized, placed_all (places_mapM fun message hmem => ?_) hrun⟩
    exact placeMessage_places (List.flatMap_eq_nil_iff.mp hown message hmem)
  · cases hend

theorem mapM_decoded {placed : List (TeacherImage Px)} {pxs : List Px}
    (h : List.Forall₂ (fun px source => source = .decoded px) pxs placed) :
    placed.mapM (normalizeTeacherImage pil) = .ok (pxs.map pil.convertRgb) := by
  induction h with
  | nil => rfl
  | cons hdecoded _ ih =>
      subst hdecoded
      rw [List.mapM_cons]
      exact except_bind_ok.mpr ⟨_, rfl, except_bind_ok.mpr ⟨_, ih, rfl⟩⟩

theorem mapM_decodes {given placed : List (TeacherImage Px)}
    (h : List.Forall₂ (Decodes pil) given placed) :
    ∃ pxs, given.mapM (normalizeTeacherImage pil) = .ok pxs ∧
      List.Forall₂ (fun px source => source = .decoded px) pxs placed := by
  induction h with
  | nil => exact ⟨[], rfl, .nil⟩
  | cons hdecodes _ ih =>
      obtain ⟨px, hpx, hsource⟩ := hdecodes
      obtain ⟨pxs, hgiven, hplaced⟩ := ih
      refine ⟨px :: pxs, ?_, .cons hsource hplaced⟩
      rw [List.mapM_cons]
      exact except_bind_ok.mpr ⟨px, hpx, except_bind_ok.mpr ⟨pxs, hgiven, rfl⟩⟩

/-- The processor gets the images of the view, each once and in the order of its column. -/
theorem extract_prepared {messages out : List (Message Px)}
    {template : Option (List (Message Px))} (hown : ∀ ms, template = some ms → sources ms = [])
    (h : prepareTeacherMessages pil messages images template = .ok out) :
    ∃ pxs, images.mapM (normalizeTeacherImage pil) = .ok pxs ∧
      extractImagesFromMessages pil out = .ok (pxs.map pil.convertRgb) := by
  cases template with
  | none =>
      obtain ⟨pxs, hpxs, hplaced⟩ := mapM_decodes (sources_swapped h)
      exact ⟨pxs, hpxs, mapM_decoded hplaced⟩
  | some ms =>
      obtain ⟨pxs, hpxs, hplaced⟩ := sources_placed (hown ms rfl) h
      exact ⟨pxs, hpxs, mapM_decoded hplaced⟩

end Placed

end LookAway.Teacher

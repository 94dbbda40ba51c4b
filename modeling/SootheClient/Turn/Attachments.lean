import Mathlib.Data.List.Forall2
import SootheClient.Frame.ChunkFilter
import SootheClient.Turn.Input

/-!
# Compaction of attachments

Before it sends, `run_turn` may downscale the images among the attachments. It takes the value out
and puts back an array made of the objects in it.
-/

namespace SootheClient.Turn

open SootheClient.Frame
open Json (Members)

/-! ## One image -/

/-- Controls of the compaction; zero fields use defaults. -/
structure CompactImageOptions where
  maxDim : ℕ
  jpegQuality : ℕ

/-- The maximum width or height, and the quality. -/
def compactDefaults (opts : Option CompactImageOptions) : ℕ × ℕ :=
  match opts with
  | none => (768, 85)
  | some opts =>
    (if 0 < opts.maxDim then opts.maxDim else 768,
      if 0 < opts.jpegQuality then opts.jpegQuality else 85)

/-- The image and base64 libraries. -/
structure ImageCodec where
  Image : Type
  decodeBase64 : String → Option (List UInt8)
  encodeBase64 : List UInt8 → String
  decode : List UInt8 → Option Image
  width : Image → ℕ
  height : Image → ℕ
  resizeExact : Image → ℕ → ℕ → Image
  writePng : Image → Option (List UInt8)
  writeJpeg : ℕ → Image → Option (List UInt8)

/-- The size after the larger dimension is cut to `maxDim`. -/
def compactSize (maxDim w h : ℕ) : ℕ × ℕ :=
  if h ≤ w then if maxDim < w then (maxDim, max (h * maxDim / w) 1) else (w, h)
  else if maxDim < h then (max (w * maxDim / h) 1, maxDim)
  else (w, h)

/-- Downscale an `image/*` payload. What is no image, cannot be decoded or is small enough stays
as it is; without the libraries everything does. -/
def compactImageAttachment (codec : Option ImageCodec) (mimeType dataB64 : String)
    (opts : Option CompactImageOptions) : String × String :=
  match codec with
  | none => (mimeType, dataB64)
  | some codec =>
    if dataB64 = "" || !Text.startsWith mimeType "image/" then (mimeType, dataB64)
    else
      match (codec.decodeBase64 dataB64).filter (· ≠ []) with
      | none => (mimeType, dataB64)
      | some raw =>
        match codec.decode raw with
        | none => (mimeType, dataB64)
        | some img =>
          let (maxDim, quality) := compactDefaults opts
          let w := codec.width img
          let h := codec.height img
          if w ≤ maxDim ∧ h ≤ maxDim then (mimeType, dataB64)
          else
            let (nw, nh) := compactSize maxDim w h
            let resized := codec.resizeExact img nw nh
            if mimeType = "image/png" then
              match codec.writePng resized with
              | none => (mimeType, dataB64)
              | some buf => (mimeType, codec.encodeBase64 buf)
            else
              match codec.writeJpeg quality resized with
              | none => (mimeType, dataB64)
              | some buf => ("image/jpeg", codec.encodeBase64 buf)

/-- One attachment: compacted when it carries a type and data. -/
def compactAttachment (codec : Option ImageCodec) (opts : Option CompactImageOptions)
    (att : Members) : Members :=
  let mime := memberStr att "mime_type"
  let data := memberStr att "data"
  if mime ≠ "" ∧ data ≠ "" then
    let out := compactImageAttachment codec mime data opts
    Members.insert (Members.insert att "mime_type" (.str out.1)) "data" (.str out.2)
  else att

/-- Compact each attachment that carries a type and data. -/
def compactAttachments (codec : Option ImageCodec) (opts : Option CompactImageOptions)
    (atts : List Members) : List Members :=
  if atts.isEmpty then atts else atts.map (compactAttachment codec opts)

/-- The runner with compaction enabled. -/
def TurnRunner.compacting (r : TurnRunner) (codec : Option ImageCodec)
    (opts : Option CompactImageOptions) : TurnRunner :=
  { r with
    cfg := { r.cfg with compactAttachmentsBeforeSend := true }
    compactAttachments := Turn.compactAttachments codec opts }

/-! ## What may change -/

/-- The kinds of JSON values. -/
inductive Kind where
  | null
  | bool
  | num
  | str
  | arr
  | obj
  deriving DecidableEq, Repr

def kindOf : Json → Kind
  | .null => .null
  | .bool _ => .bool
  | .num _ => .num
  | .str _ => .str
  | .arr _ => .arr
  | .obj _ => .obj

/-- The attachment is an image. -/
def IsImage (att : Members) : Prop := Text.startsWith (memberStr att "mime_type") "image/" = true

/-- An element is the same, but for the type and the data of an image. -/
inductive Kept : Json → Json → Prop where
  | same (v : Json) : Kept v v
  | members (a b : Members) (h : Members.Same a b) : Kept (.obj a) (.obj b)
  | image (a b : Members) (himage : IsImage a)
    (h : ∀ key, key ≠ "mime_type" → key ≠ "data" → a.get key = b.get key) : Kept (.obj a) (.obj b)

/-- The value that is sent is the given one, but for the type and the data of images. -/
structure Preserved (given sent : Option Json) : Prop where
  present : sent.isSome = given.isSome
  kind : sent.map kindOf = given.map kindOf
  elements : ∀ xs, given = some (.arr xs) → ∃ ys, sent = some (.arr ys) ∧ List.Forall₂ Kept xs ys

/-- The value is an array of objects. -/
def ObjectArray (v : Json) : Prop := ∃ atts : List Members, v = .arr (atts.map .obj)

variable {codec : Option ImageCodec} {opts : Option CompactImageOptions} {mime data : String}
  {att : Members}

/-- What is no image stays as it is. -/
theorem compactImageAttachment_of_not_image (h : Text.startsWith mime "image/" = false) :
    compactImageAttachment codec mime data opts = (mime, data) := by
  unfold compactImageAttachment
  cases codec with
  | none => rfl
  | some codec =>
    simp only
    rw [if_pos (by rw [h, Bool.not_false, Bool.or_true])]

/-- A string member that is read is there. -/
theorem get_of_memberStr {key s : String} (h : memberStr att key = s) (hs : s ≠ "") :
    att.get key = some (.str s) := by
  unfold memberStr at h
  cases hget : att.get key with
  | none =>
    rw [hget] at h
    exact absurd h.symm hs
  | some v =>
    rw [hget] at h
    cases v with
    | str t => exact congrArg (some ∘ Json.str) h
    | _ => exact absurd h.symm hs

/-- Compaction keeps an attachment, but for the type and the data of an image. -/
theorem compactAttachment_kept : Kept (.obj att) (.obj (compactAttachment codec opts att)) := by
  unfold compactAttachment
  simp only
  split_ifs with hboth
  · by_cases himage : IsImage att
    · refine Kept.image _ _ himage fun key hmime hdata => ?_
      rw [Members.get_insert_of_ne hdata, Members.get_insert_of_ne hmime]
    · refine Kept.members _ _ fun key => ?_
      rw [compactImageAttachment_of_not_image (Bool.eq_false_iff.2 himage)]
      rw [Members.get_insert, Members.get_insert]
      split_ifs with hdata hmime
      · rw [hdata]
        exact get_of_memberStr rfl hboth.2
      · rw [hmime]
        exact get_of_memberStr rfl hboth.1
      · rfl
  · exact Kept.same _

/-! ## The value that is sent -/

variable {r : TurnRunner} {call : TurnCall} {loopId : String} {given : Option Json}

theorem compactAttachments_eq {atts : List Members} :
    compactAttachments codec opts atts = atts.map (compactAttachment codec opts) := by
  cases atts <;> rfl

theorem compacting_arr {items : List Json} :
    (r.compacting codec opts).sendAttachments (some (.arr items)) = some (.arr
      (((items.filterMap Json.asObject?).map (compactAttachment codec opts)).map .obj)) := by
  rw [← compactAttachments_eq]
  rfl

/-- The objects of an array of objects. -/
theorem filterMap_asObject (atts : List Members) : (atts.map Json.obj).filterMap Json.asObject? =
    atts := by
  rw [List.filterMap_map]
  exact List.filterMap_some

/-- An array that holds as many objects as elements is one of objects. -/
theorem objects_of_length {items : List Json}
    (h : (items.filterMap Json.asObject?).length = items.length) :
    items = (items.filterMap Json.asObject?).map .obj := by
  rw [List.filterMap_length_eq_length] at h
  induction items with
  | nil => rfl
  | cons v items ih =>
    obtain ⟨att, hatt⟩ := Option.isSome_iff_exists.1 (h v List.mem_cons_self)
    rw [List.filterMap_cons_some hatt, List.map_cons,
      ← ih fun a ha => h a (List.mem_cons_of_mem v ha)]
    congr 1
    cases v with
    | obj m => exact congrArg Json.obj (Option.some.inj hatt)
    | _ => cases hatt

/-- Compaction preserves the value exactly when it is absent or an array of objects. -/
theorem compacting_preserved_iff :
    Preserved given ((r.compacting codec opts).sendAttachments given) ↔
      ∀ v, given = some v → ObjectArray v := by
  constructor
  · rintro h v rfl
    cases v with
    | arr items =>
      obtain ⟨ys, hys, hall⟩ := h.elements items rfl
      rw [compacting_arr] at hys
      have hlen := hall.length_eq
      rw [← Json.arr.inj (Option.some.inj hys), List.length_map, List.length_map] at hlen
      exact ⟨_, congrArg Json.arr (objects_of_length hlen.symm)⟩
    | _ => exact absurd h.present Bool.false_ne_true
  · intro h
    cases given with
    | none => exact ⟨rfl, rfl, nofun⟩
    | some v =>
      obtain ⟨atts, rfl⟩ := h v rfl
      rw [compacting_arr, filterMap_asObject, List.map_map]
      refine ⟨rfl, rfl, fun xs hxs => ⟨_, rfl, ?_⟩⟩
      rw [← Json.arr.inj (Option.some.inj hxs), List.forall₂_map_left_iff,
        List.forall₂_map_right_iff]
      exact List.forall₂_same.2 fun att _ => compactAttachment_kept

/-- **Compaction.** With compaction enabled, the attachments that are handed to the builder or to
`send_input`, which both send them as they are, are those that were given, but for the type and
the data of images, exactly when none were given or they are an array of objects. -/
theorem compaction_preserves (codec : Option ImageCodec) (opts : Option CompactImageOptions)
    (r : TurnRunner) (call : TurnCall) (loopId : String) :
    (Preserved call.attachments ((r.compacting codec opts).sendAttachments call.attachments) ↔
      ∀ v, call.attachments = some v → ObjectArray v) ∧
    (((r.compacting codec opts).withSendInput.sendEffect call loopId).params.get "attachments" =
      (r.compacting codec opts).sendAttachments call.attachments) ∧
    (((r.compacting codec opts).withLoopInput.sendEffect call loopId).params.get "attachments" =
      (r.compacting codec opts).sendAttachments call.attachments) :=
  ⟨compacting_preserved_iff, withSendInput_get, withLoopInput_get⟩

/-- A file on its own, not in an array, is not sent. -/
theorem compaction_preserves_fails : ¬ ∀ (codec : Option ImageCodec)
    (opts : Option CompactImageOptions) (r : TurnRunner) (call : TurnCall),
    Preserved call.attachments
      ((r.compacting codec opts).sendAttachments call.attachments) := by
  intro h
  have hp := h none none defaultRunner
    { hintCall "quiz" with attachments := some (.obj [("name", .str "notes.txt")]) }
  exact absurd hp.present Bool.false_ne_true

end SootheClient.Turn

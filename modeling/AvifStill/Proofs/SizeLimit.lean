import AvifStill.Proofs.Container.Layout
import AvifStill.Proofs.Load

/-!
# The size limit

A limit on the size of images is there so that nothing large is decoded. It is compared with the
exact number of pixels, but only with that of the colour item, before anything is decoded. An alpha
item may claim any size and is decoded nevertheless; only what the decoder answers is then refused,
since in an image that is loaded alpha has the size of the colour item.
-/

namespace AvifStill

open Av1

/-- What a decoder is handed for an item. -/
def CodedImage.request (item : CodedImage) : List UInt8 × Config :=
  (item.data, item.config)

/-- Whether an item claims more pixels than a limit. -/
def CodedImage.Exceeds (item : CodedImage) (limit : Nat) : Prop :=
  limit < item.width.toNat * item.height.toNat

instance (item : CodedImage) (limit : Nat) : Decidable (item.Exceeds limit) :=
  inferInstanceAs (Decidable (_ < _))

/-- The same decoder, which also notes down what it is handed. -/
def Av1.Decoder.noting {σ : Type} (decoder : Decoder σ) :
    Decoder (List (List UInt8 × Config) × σ) where
  decode data config state :=
    let (result, after) := decoder.decode data config state.2
    (result, (state.1 ++ [(data, config)], after))

namespace LoadedImage

variable {σ : Type}

/-! ## What is handed to the decoder -/

/-- The items of a container that are handed to a decoder, in order. -/
def handedItems (decoder : Decoder σ) (file : Container) (state : σ) : List CodedImage :=
  match (decodeItem decoder file.color state).1 with
  | .error _ => [file.color]
  | .ok _ => file.color :: file.alpha.toList

/-- The items of a file that are handed to a decoder, in order. -/
def handed (options : DecodeOptions) (decoder : Decoder σ) (file : Bytes) (state : σ) :
    List CodedImage :=
  match open? options file with
  | .error _ => []
  | .ok container => handedItems decoder container state

theorem decodeItem_noting (decoder : Decoder σ) (item : CodedImage)
    (notes : List (List UInt8 × Config)) (state : σ) :
    decodeItem decoder.noting item (notes, state) =
      ((decodeItem decoder item state).1,
        (notes ++ [item.request], (decodeItem decoder item state).2)) := rfl

theorem decodeItems_noting (decoder : Decoder σ) (file : Container)
    (notes : List (List UInt8 × Config)) (state : σ) :
    decodeItems decoder.noting file (notes, state) =
      ((decodeItems decoder file state).1,
        (notes ++ (handedItems decoder file state).map CodedImage.request,
          (decodeItems decoder file state).2)) := by
  unfold decodeItems handedItems
  rw [decodeItem_noting]
  rcases decodeItem decoder file.color state with ⟨result, between⟩
  cases result with
  | error fault => rfl
  | ok color =>
      cases file.alpha with
      | none => rfl
      | some item =>
          simp only [decodeItem_noting, Option.toList_some, List.map_cons, List.map_nil,
            List.append_assoc, List.cons_append, List.nil_append]

/-- Noting changes nothing, and what is noted are the items that are handed over. -/
theorem load_noting (options : DecodeOptions) (decoder : Decoder σ) (file : Bytes)
    (notes : List (List UInt8 × Config)) (state : σ) :
    load options decoder.noting file (notes, state) =
      ((load options decoder file state).1,
        (notes ++ (handed options decoder file state).map CodedImage.request,
          (load options decoder file state).2)) := by
  unfold load handed
  cases open? options file with
  | error fault => simp
  | ok container =>
      simp only [decodeItems_noting]
      rcases decodeItems decoder container state with ⟨result, after⟩
      cases result <;> rfl

/-! ## Sizes of loaded images -/

/-- In an image that is loaded the alpha item has the size of the colour item. -/
theorem itemSize_of_load {options : DecodeOptions} {decoder : Decoder σ} {file : Bytes}
    {state after : σ} {loaded : LoadedImage} {container : Container}
    (opened : open? options file = .ok container)
    (done : load options decoder file state = (.ok loaded, after)) {item : CodedImage}
    (isItem : container.alpha = some item) :
    item.width = container.color.width ∧ item.height = container.color.height := by
  rcases parts_of_load done with ⟨found, frames, isOpened, decoded, finished⟩
  cases isOpened.symm.trans opened
  rcases of_decodeItems decoded with ⟨-, fits, -⟩
  rcases fits_alpha_of_decodeItems decoded isItem with ⟨alpha, isAlpha, fitsAlpha⟩
  rcases done_of_bind finished with ⟨resolved, -, finished⟩
  rcases done_of_bind finished with ⟨raster, drawn, -⟩
  rcases done_of_bind drawn with ⟨matrix, -, drawn⟩
  rcases done_of_bind drawn with ⟨first, isFirst, -⟩
  have size := Strategy.alphaSize_of_decode isFirst
    ((ChannelLayout.hasAlpha_ofFlags _ _).trans (Option.isSome_of_eq_some isAlpha)) isAlpha
  rw [fitsAlpha.width, fitsAlpha.height, fits.width, fits.height, Prod.mk.injEq] at size
  exact ⟨UInt32.toNat_inj.mp size.1, UInt32.toNat_inj.mp size.2⟩

/-! ## What the limit guarantees -/

variable {options : DecodeOptions} {file : Bytes} {container : Container}

theorem open?_of_exceeds (limited : options.pixelLimit ≠ 0)
    (parsed : Container.parse file = .ok container)
    (exceeds : container.color.Exceeds options.pixelLimit) :
    open? options file =
      .error (.imageTooLarge container.color.width.toNat container.color.height.toNat) := by
  refine (bind_of_done parsed).trans ?_
  rw [DecodeOptions.checkSize, if_pos ⟨limited, exceeds⟩]
  rfl

theorem open?_of_not_exceeds (parsed : Container.parse file = .ok container)
    (within : ¬container.color.Exceeds options.pixelLimit) :
    open? options file = .ok container := by
  refine (bind_of_done parsed).trans ?_
  rw [DecodeOptions.checkSize, if_neg fun exceeds => within exceeds.2]
  rfl

/-- A large item is handed over when it is the alpha item of a colour item that is decoded. -/
theorem exceeds_handedItems_iff (within : ¬container.color.Exceeds options.pixelLimit)
    (decoder : Decoder σ) (state : σ) :
    (∃ item ∈ handedItems decoder container state, item.Exceeds options.pixelLimit) ↔
      (∃ frame, (decodeItem decoder container.color state).1 = .ok frame) ∧
        ∃ item, container.alpha = some item ∧ item.Exceeds options.pixelLimit := by
  unfold handedItems
  cases (decodeItem decoder container.color state).1 with
  | error fault => simp [within]
  | ok frame => simp [within]

/-- How a limit bounds what is decoded and what is loaded of a file. -/
structure IsLimited (options : DecodeOptions) (decoder : Decoder σ) (file : Bytes)
    (container : Container) (state : σ) : Prop where
  /-- A large colour item is refused under its size before anything is decoded. -/
  refused : container.color.Exceeds options.pixelLimit →
    load options decoder.noting file ([], state) = (.error (.imageTooLarge
      container.color.width.toNat container.color.height.toNat), ([], state))
  /-- The limit does nothing else. -/
  ignored : ¬container.color.Exceeds options.pixelLimit →
    load options decoder file state = load { options with pixelLimit := 0 } decoder file state
  /-- The decoder is handed these items in order, and nothing else. -/
  noted : (load options decoder.noting file ([], state)).2.1 =
    (handed options decoder file state).map CodedImage.request
  /-- A large item among them is the alpha item of a colour item that is not large. -/
  decoded : (∃ item ∈ handed options decoder file state, item.Exceeds options.pixelLimit) ↔
    ¬container.color.Exceeds options.pixelLimit ∧
      (∃ frame, (decodeItem decoder container.color state).1 = .ok frame) ∧
      ∃ item, container.alpha = some item ∧ item.Exceeds options.pixelLimit
  /-- Nothing large is loaded. -/
  loaded : ∀ loaded after, load options decoder file state = (.ok loaded, after) →
    ¬container.color.Exceeds options.pixelLimit ∧
      ∀ item, container.alpha = some item → ¬item.Exceeds options.pixelLimit

/-- The limit holds for everything that is loaded, but not for everything that is decoded. -/
theorem isLimited_of_parse (limited : options.pixelLimit ≠ 0)
    (parsed : Container.parse file = .ok container) (decoder : Decoder σ) (state : σ) :
    IsLimited options decoder file container state := by
  by_cases exceeds : container.color.Exceeds options.pixelLimit
  · have opened := open?_of_exceeds limited parsed exceeds
    constructor
    · intro _
      simp only [load, opened]
    · exact fun within => absurd exceeds within
    · simp only [load, handed, opened, List.map_nil]
    · simp [handed, opened, exceeds]
    · intro loaded after done
      simp only [load, opened] at done
      cases done
  · have opened := open?_of_not_exceeds parsed exceeds
    constructor
    · exact fun exceeding => absurd exceeding exceeds
    · intro _
      have unlimited : open? { options with pixelLimit := 0 } file = .ok container :=
        (bind_of_done parsed).trans rfl
      simp only [load, opened, unlimited]
      rfl
    · rw [load_noting]
      rfl
    · simp only [handed, opened]
      rw [exceeds_handedItems_iff exceeds decoder state]
      exact (and_iff_right exceeds).symm
    -- An image is only loaded when alpha has the size of the colour item, which is within the limit.
    · intro loaded after done
      refine ⟨exceeds, ?_⟩
      intro item isItem
      have size := itemSize_of_load opened done isItem
      rwa [CodedImage.Exceeds, size.1, size.2]

/-- A gray pixel whose alpha item claims to be larger. -/
def wideVeil : Container where
  color := ⟨[0], .forFrame 8 .monochrome, 1, 1⟩
  alpha := some ⟨[1], .forFrame 8 .monochrome, 2, 2⟩
  cicp := none
  icc := none
  transforms := .none
  exifItem := none
  xmp := none
  premultiplied := false

/-- A file with this content, in which the alpha item has a size property of its own. -/
def wideVeilFile : Bytes :=
  let size : Box := .full .ispe 0 (Container.word 2 ++ Container.word 2)
  let list : Box := ⟨.ipco, (wideVeil.colorProperties.map Container.Written.box ++
    wideVeil.alphaProperties ++ [size]).flatMap Box.toBytes⟩
  let links : Box := .full .ipma 0 (Bytes.ofNat 4 2 ++ Bytes.ofNat 2 1 ++ [3, 1, 0x82, 3] ++
    Bytes.ofNat 2 2 ++ [4, 7, 0x84, 6, 5])
  let references : Box := .full .iref 0 (Container.referenceBox .auxl 2 1).toBytes
  Container.brandsBox.toBytes ++ Box.toBytes (.full .metadata 0
    ([Container.handlerBox, Container.primaryBox, Container.locationsBox wideVeil.storedItems 412,
      wideVeil.entriesBox, references,
      ⟨.iprp, list.toBytes ++ links.toBytes⟩].flatMap Box.toBytes)) ++ Box.toBytes ⟨.mdat, [1, 0]⟩

/-- A decoder that answers everything with one gray pixel. -/
def grayDecoder : Decoder Unit :=
  ⟨fun _ _ state => (.ok ⟨8, .monochrome, .full, none, .build 1 1 fun _ _ => 7, none, none⟩, state)⟩

/-- The alpha item is decoded although it has four pixels and three are allowed. -/
theorem exceeds_handed_wideVeil : Container.parse wideVeilFile = .ok wideVeil ∧
    ∃ item ∈ handed ⟨3, true⟩ grayDecoder wideVeilFile (), item.Exceeds 3 := by
  have parsed : Container.parse wideVeilFile = .ok wideVeil := ok_of_toOption (by decide +kernel)
  have limits := @isLimited_of_parse Unit ⟨3, true⟩ _ _ (by decide) parsed grayDecoder ()
  exact ⟨parsed, limits.decoded.mpr ⟨by decide, ⟨_, rfl⟩, _, rfl, by decide⟩⟩

end LoadedImage

end AvifStill

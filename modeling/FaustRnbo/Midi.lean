import Mathlib.Tactic.FieldSimp
import Mathlib.Tactic.Ring
import FaustRnbo.Patcher
import FaustRnbo.Metadata

/-!
# Parameter Labels and MIDI Control

`build_label` names a parameter, and `add_midi_control` gives a parameter with a MIDI
annotation a chain in the subpatcher: a MIDI receiver feeding a `scale` box into the
parameter's `set` relay, and a `scale` box fed by the `codebox~` into a MIDI sender.

Max's `scale a b c d` is the linear map sending `a` to `c` and `b` to `d`; `scaleMap` reads a
box text as that map. The input box maps the device range onto the parameter range and the
output box should map it back. The general classes do (`midiChain_scaling_inverse`). The
pitch wheel's output box is `scale min max -1 -1`, which sends every value to `-1`
(`midiChain_pitchwheel_scaling_constant`).

The annotation tokens reach `add_midi_control` flattened: `extract_from_ui` concatenates the
tokens of all `midi` annotations of an item, and `add_midi_control` reads the first token as
the class and all the others as its arguments, so the tokens of a second annotation end up
as arguments of the first (`midiChain_merges_annotations`).
-/

namespace FaustRnbo

/-- `build_label`: the parameter's label, `RB_<type>_<shortname>` in test mode. -/
def buildLabel (itemType shortname : String) (test : Bool) : String :=
  if test then "RB_" ++ itemType ++ "_" ++ shortname else shortname

/-- The `midi_mapping` table of `add_midi_control`: the texts of the RNBO objects that receive
and send a Faust MIDI class. -/
def midiMapping : String → Option (List Atom × List Atom)
  | "ctrl" => some ([.sym "ctlin"], [.sym "ctlout"])
  | "chanpress" => some ([.sym "touchin"], [.sym "touchout"])
  | "keyon" => some ([.sym "notein"], [.sym "noteout"])
  | "keyoff" => some ([.sym "notein"], [.sym "noteout"])
  | "key" => some ([.sym "notein"], [.sym "noteout"])
  | "pitchwheel" =>
    some ([.sym "bendin", .sym "@bendmode", .num 1], [.sym "bendout", .sym "@bendmode", .num 1])
  | "pgm" => some ([.sym "pgmin"], [.sym "pgmout"])
  | _ => none

/-- The texts of the input and output scaling boxes for a class and a parameter range. -/
def scalings (midiType : String) (mn mx : ℚ) : List Atom × List Atom :=
  if midiType = "pitchwheel" then
    ([.sym "scale", .num (-1), .num 1, .num mn, .num mx],
      [.sym "scale", .num mn, .num mx, .num (-1), .num (-1)])
  else
    ([.sym "scale", .num 0, .num 127, .num mn, .num mx],
      [.sym "scale", .num mn, .num mx, .num 0, .num 127])

/-- `add_midi_control`: for a supported first MIDI token, add the receiver, the sender and the
two scaling boxes with their four lines, and report whether it did. -/
def addMidiControl (item : ItemInfo) (subPatch : Patcher SubBox) (setParam codebox : Nat) :
    Patcher SubBox × Bool :=
  match item.midi with
  | [] => (subPatch, false)
  | midiType :: midiArgs =>
    match midiMapping midiType with
    | none => (subPatch, false)
    | some (inText, outText) =>
      let args := midiArgs.map Atom.sym
      let (subPatch, midiIn) := subPatch.addBox (.textbox (inText ++ args))
      let (subPatch, midiOut) := subPatch.addBox (.textbox (outText ++ args))
      let (scalingIn, scalingOut) := scalings midiType item.min item.max
      let (subPatch, scalingInBox) := subPatch.addBox (.textbox scalingIn)
      let (subPatch, scalingOutBox) := subPatch.addBox (.textbox scalingOut)
      let subPatch := subPatch.addLine midiIn scalingInBox 0 0
      let subPatch := subPatch.addLine scalingInBox setParam 0 0
      let subPatch := subPatch.addLine codebox scalingOutBox 0 0
      let subPatch := subPatch.addLine scalingOutBox midiOut 0 0
      (subPatch, true)

/-- Whether `add_midi_control` builds a chain for these tokens: the first is a supported class. -/
def midiSupported : List String → Bool
  | [] => false
  | midiType :: _ => (midiMapping midiType).isSome

/-- The four boxes of the chain for class `midiType` with its arguments, on a range. -/
def midiChainBoxes (midiType : String) (midiArgs : List String) (mn mx : ℚ) : List SubBox :=
  match midiMapping midiType with
  | some (inText, outText) =>
    [.textbox (inText ++ midiArgs.map Atom.sym), .textbox (outText ++ midiArgs.map Atom.sym),
      .textbox (scalings midiType mn mx).1, .textbox (scalings midiType mn mx).2]
  | none => []

/-- The four lines of a chain whose boxes start at `n`. -/
def midiChainLines (n setParam codebox : Nat) : List Line :=
  [⟨n, 0, n + 2, 0⟩, ⟨n + 2, 0, setParam, 0⟩, ⟨codebox, 0, n + 3, 0⟩, ⟨n + 3, 0, n + 1, 0⟩]

theorem addMidiControl_of_supported {item : ItemInfo} {midiType : String}
    {midiArgs : List String} (h : item.midi = midiType :: midiArgs)
    (hs : (midiMapping midiType).isSome) (subPatch : Patcher SubBox) (setParam codebox : Nat) :
    addMidiControl item subPatch setParam codebox =
      (⟨subPatch.boxes ++ midiChainBoxes midiType midiArgs item.min item.max,
        subPatch.lines ++ midiChainLines subPatch.boxes.length setParam codebox⟩, true) := by
  obtain ⟨⟨inText, outText⟩, hm⟩ := Option.isSome_iff_exists.mp hs
  simp [addMidiControl, midiChainBoxes, midiChainLines, h, hm, Patcher.addBox, Patcher.addLine]

theorem addMidiControl_of_unsupported {item : ItemInfo} (h : midiSupported item.midi = false)
    (subPatch : Patcher SubBox) (setParam codebox : Nat) :
    addMidiControl item subPatch setParam codebox = (subPatch, false) := by
  unfold addMidiControl
  split
  · rfl
  · next midiType midiArgs hmidi =>
    rw [hmidi, midiSupported] at h
    cases hm : midiMapping midiType <;> simp_all

/-! ### The scaling boxes -/

/-- Max's `scale a b c d` read from a box text: the linear map sending `a` to `c` and `b` to
`d`, `x ↦ c + (x - a) * (d - c) / (b - a)`. -/
def scaleMap : List Atom → Option (ℚ → ℚ)
  | [.sym "scale", .num a, .num b, .num c, .num d] =>
    some fun x => c + (x - a) * (d - c) / (b - a)
  | _ => none

@[simp] theorem scaleMap_scale (a b c d : ℚ) :
    scaleMap [.sym "scale", .num a, .num b, .num c, .num d] =
      some fun x => c + (x - a) * (d - c) / (b - a) := rfl

theorem addMidiControl_boxes_of_supported {item : ItemInfo} {midiType : String}
    {midiArgs : List String} (h : item.midi = midiType :: midiArgs)
    {inText outText : List Atom} (hm : midiMapping midiType = some (inText, outText))
    (subPatch : Patcher SubBox) (setParam codebox : Nat) :
    (addMidiControl item subPatch setParam codebox).1.boxes = subPatch.boxes ++
      [.textbox (inText ++ midiArgs.map Atom.sym), .textbox (outText ++ midiArgs.map Atom.sym),
        .textbox (scalings midiType item.min item.max).1,
        .textbox (scalings midiType item.min item.max).2] := by
  rw [addMidiControl_of_supported h (by simp [hm])]
  simp [midiChainBoxes, hm]

/-- **The general classes round-trip.** For every supported class but the pitch wheel and a
parameter range with `min ≠ max`, the input scaling box of the chain maps the device range
`0..127` onto `min..max`, the output box maps `min..max` back onto `0..127`, and the two maps
are mutually inverse. -/
theorem addMidiControl_scaling_inverse {item : ItemInfo} {midiType : String}
    {midiArgs : List String} (h : item.midi = midiType :: midiArgs)
    (hs : (midiMapping midiType).isSome) (hp : midiType ≠ "pitchwheel")
    (hne : (item.min : ℚ) ≠ item.max) (subPatch : Patcher SubBox) (setParam codebox : Nat) :
    ∃ midiIn midiOut scalingIn scalingOut fIn fOut,
      (addMidiControl item subPatch setParam codebox).1.boxes =
        subPatch.boxes ++ [midiIn, midiOut, .textbox scalingIn, .textbox scalingOut] ∧
      scaleMap scalingIn = some fIn ∧ scaleMap scalingOut = some fOut ∧
      fIn 0 = item.min ∧ fIn 127 = item.max ∧ fOut item.min = 0 ∧ fOut item.max = 127 ∧
      (∀ x, fOut (fIn x) = x) ∧ ∀ y, fIn (fOut y) = y := by
  obtain ⟨⟨inText, outText⟩, hm⟩ := Option.isSome_iff_exists.mp hs
  have hd : (item.max : ℚ) - item.min ≠ 0 := sub_ne_zero.mpr (Ne.symm hne)
  refine ⟨_, _, _, _, _, _, addMidiControl_boxes_of_supported h hm subPatch setParam codebox,
    by simp [scalings, hp]; rfl, by simp [scalings, hp]; rfl, ?_⟩
  refine ⟨by simp, by field_simp, by simp, by field_simp, fun x => by field_simp; ring,
    fun y => by field_simp⟩

/-- A controller-7 parameter on `0..1`: its chain's scalings are mutually inverse. -/
theorem addMidiControl_scaling_inverse_ctrl :
    ∃ midiIn midiOut scalingIn scalingOut fIn fOut,
      (addMidiControl ⟨"vol", "hslider", 0, 0, 1, 1, ["ctrl", "7"]⟩ .empty 1 0).1.boxes =
        [midiIn, midiOut, .textbox scalingIn, .textbox scalingOut] ∧
      scaleMap scalingIn = some fIn ∧ scaleMap scalingOut = some fOut ∧
      fIn 0 = 0 ∧ fIn 127 = 1 ∧ fOut 0 = 0 ∧ fOut 1 = 127 ∧
      (∀ x, fOut (fIn x) = x) ∧ ∀ y, fIn (fOut y) = y :=
  @addMidiControl_scaling_inverse ⟨"vol", "hslider", 0, 0, 1, 1, ["ctrl", "7"]⟩ "ctrl" ["7"]
    rfl rfl (by decide) (by decide) .empty 1 0

/-- **The pitch wheel's output scaling is constant.** The input box of a pitch-wheel chain maps
the bipolar range `-1..1` onto `min..max`, but the output box `scale min max -1 -1` sends
every value to `-1`, so a round trip through both returns `-1` whatever the input. -/
theorem addMidiControl_pitchwheel_scaling {item : ItemInfo} {midiArgs : List String}
    (h : item.midi = "pitchwheel" :: midiArgs) (subPatch : Patcher SubBox)
    (setParam codebox : Nat) :
    ∃ midiIn midiOut scalingIn scalingOut fIn fOut,
      (addMidiControl item subPatch setParam codebox).1.boxes =
        subPatch.boxes ++ [midiIn, midiOut, .textbox scalingIn, .textbox scalingOut] ∧
      scaleMap scalingIn = some fIn ∧ scaleMap scalingOut = some fOut ∧
      fIn (-1) = item.min ∧ fIn 1 = item.max ∧ ∀ x, fOut (fIn x) = -1 := by
  refine ⟨_, _, _, _, _, _, addMidiControl_boxes_of_supported h rfl subPatch setParam codebox,
    by simp [scalings]; rfl, by simp [scalings]; rfl, by simp, ?_, fun x => by simp⟩
  norm_num

/-- A pitch-wheel parameter on `0..1`: its chain's output scaling sends every value to `-1`. -/
theorem addMidiControl_pitchwheel_bend :
    ∃ midiIn midiOut scalingIn scalingOut fIn fOut,
      (addMidiControl ⟨"bend", "hslider", 0, 0, 1, 1, ["pitchwheel"]⟩ .empty 1 0).1.boxes =
        [midiIn, midiOut, .textbox scalingIn, .textbox scalingOut] ∧
      scaleMap scalingIn = some fIn ∧ scaleMap scalingOut = some fOut ∧
      fIn (-1) = 0 ∧ fIn 1 = 1 ∧ ∀ x, fOut (fIn x) = -1 :=
  addMidiControl_pitchwheel_scaling rfl .empty 1 0

/-! ### Several annotations on one item -/

theorem itemInfo_midi {node : UIItem} {info : ItemInfo} (h : itemInfo node = some info) :
    info.midi = midiInfo (node.meta.getD []) := by
  simp only [itemInfo] at h
  split_ifs at h
  · cases h; rfl
  · split at h <;> cases h; rfl

/-- **The annotations of an item are merged into one chain.** When a UI node carries two or
more `midi` annotations and the first reads `c a₁ … aⱼ` with `c` a supported class, the MIDI
receiver and sender of the chain built for its parameter read `in(c)` and `out(c)` followed by
`a₁ … aⱼ` and then by the tokens of every later annotation. -/
theorem addMidiControl_merges_annotations {node : UIItem} {info : ItemInfo}
    (hinfo : itemInfo node = some info) {m₁ m₂ : String} {rest : List String}
    (hmidi : (node.meta.getD []).filterMap (·.lookup "midi") = m₁ :: m₂ :: rest)
    {midiType : String} {args : List String} (h₁ : pySplit m₁ = midiType :: args)
    {inText outText : List Atom} (hm : midiMapping midiType = some (inText, outText))
    (subPatch : Patcher SubBox) (setParam codebox : Nat) :
    ∃ scalingIn scalingOut, (addMidiControl info subPatch setParam codebox).1.boxes =
      subPatch.boxes ++
        [.textbox (inText ++ (args ++ pySplit m₂ ++ rest.flatMap pySplit).map Atom.sym),
          .textbox (outText ++ (args ++ pySplit m₂ ++ rest.flatMap pySplit).map Atom.sym),
          scalingIn, scalingOut] := by
  have h : info.midi = midiType :: (args ++ pySplit m₂ ++ rest.flatMap pySplit) := by
    simp [itemInfo_midi hinfo, midiInfo_eq, hmidi, (funext pySplit_eq_whitespaceWords).symm, h₁]
  exact ⟨_, _, addMidiControl_boxes_of_supported h hm subPatch setParam codebox⟩

/-- A slider with the annotations `ctrl 7` and `ctrl 8`: its receiver reads `ctlin 7 ctrl 8`. -/
theorem addMidiControl_merges_ctrl_annotations :
    ∃ scalingIn scalingOut,
      (addMidiControl ⟨"vol", "hslider", 0, 0, 1, 1, ["ctrl", "7", "ctrl", "8"]⟩ .empty 1
          0).1.boxes =
        [.textbox [.sym "ctlin", .sym "7", .sym "ctrl", .sym "8"],
          .textbox [.sym "ctlout", .sym "7", .sym "ctrl", .sym "8"], scalingIn, scalingOut] :=
  @addMidiControl_merges_annotations ⟨some "hslider", some "vol", some 0, some 1, some 1, none,
    some [[("midi", "ctrl 7")], [("midi", "ctrl 8")]], none⟩
    ⟨"vol", "hslider", 0, 0, 1, 1, ["ctrl", "7", "ctrl", "8"]⟩ rfl "ctrl 7" "ctrl 8" [] rfl
    "ctrl" ["7"] rfl [.sym "ctlin"] [.sym "ctlout"] rfl .empty 1 0

end FaustRnbo

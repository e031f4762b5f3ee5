import FaustRnbo.RnboObject

/-!
# The Top-Level Patch

`create_rnbo_patch` and the functions it calls to wire the top-level patcher: the DSP unit, the
MIDI objects, the optional effect unit and its audio connection to the DSP unit, the compile
machinery, and the audio driver objects.

The functions are stated as the script runs them, and each with what it appends
(`addCompileTest_eq`, `createAudioOutput_eq`, ...); `connect_dsp_effect` appends the lines of the
channel adaptation table of the specification (`connectDspEffect_eq`).

The effect unit is passed as one `EffectUnit`: its caller passes the code, the parameters and
the channel counts together or not at all. Saving the patcher and the subpatchers to files is
not modelled.

## Main results

* `connectDspEffect_eq`: `connect_dsp_effect` implements the adaptation table.
* `createRnboPatch_ok_iff_added`: `create_rnbo_patch` raises exactly when `add_rnbo_object`
  raises on the DSP unit or on the effect unit it adds.
-/

namespace FaustRnbo

/-! ### What the port rules read of a box -/

/-- The inlet and outlet counts an `rnbo~` box declares. -/
def Box.rnboPorts : Box → Option (Nat × Nat)
  | .rnbo r => some (r.numinlets, r.numoutlets)
  | _ => none

/-- The class of a box: the first word of an object box, and the kind of the other boxes. -/
def Box.className : Box → String
  | .comment => "comment"
  | .textbox (.sym s :: _) _ _ => s
  | .textbox _ _ _ => ""
  | .message _ => "message"
  | .attrui _ => "attrui"
  | .rnbo _ => "rnbo~"

/-- What the port rules read of a box: its class and the ports of an `rnbo~` box. -/
abbrev PortView := String × Option (Nat × Nat)

/-- The view of a box. -/
def Box.view (b : Box) : PortView := (b.className, b.rnboPorts)

@[simp] theorem view_textbox (s : String) (rest : List Atom) (i o : Option Nat) :
    (Box.textbox (.sym s :: rest) i o).view = (s, none) := rfl

@[simp] theorem view_message (text : List Atom) : (Box.message text).view = ("message", none) :=
  rfl

@[simp] theorem view_attrui (a : Attrui) : (Box.attrui a).view = ("attrui", none) := rfl

@[simp] theorem view_rnbo (r : Rnbo) :
    (Box.rnbo r).view = ("rnbo~", some (r.numinlets, r.numoutlets)) := rfl

/-- `rnbo.numinlets` and `rnbo.numoutlets` of the `rnbo~` box with id `k`. -/
def Patcher.ports (p : Patcher Box) (k : Nat) : Nat × Nat :=
  ((p.boxes[k]?).bind Box.rnboPorts).getD (0, 0)

/-! ### The functions of the script -/

/-- `connect_midi`: `midiin` into the last inlet of the unit, and the unit's outlet third from
the right into `midiout`. -/
def connectMidi (patcher : Patcher Box) (rnbo midiIn midiOut : Nat) : Patcher Box :=
  let inletIndex := (patcher.ports rnbo).1 - 1
  let outletIndex := (patcher.ports rnbo).2 - 3
  let patcher := patcher.addLine midiIn rnbo inletIndex 0
  patcher.addLine rnbo midiOut 0 outletIndex

/-- `connect_dsp_effect`: the audio lines from the DSP unit to the effect unit for the channel
counts `1 → 1`, `1 → 2`, `2 → 1` and `2 → 2`; no line for other counts. -/
def connectDspEffect (patcher : Patcher Box) (dspRnbo effectRnbo dspNumOutputs
    effectNumInputs : Nat) : Patcher Box :=
  match dspNumOutputs, effectNumInputs with
  | 1, 1 => patcher.addLine dspRnbo effectRnbo 0 0
  | 1, 2 => (patcher.addLine dspRnbo effectRnbo 0 0).addLine dspRnbo effectRnbo 1 0
  | 2, 1 => (patcher.addLine dspRnbo effectRnbo 0 0).addLine dspRnbo effectRnbo 0 1
  | 2, 2 => (patcher.addLine dspRnbo effectRnbo 0 0).addLine dspRnbo effectRnbo 1 1
  | _, _ => patcher

/-- The boxes `add_compile_test` adds, in order: `loadbang`, the `dumptargetconfig` message,
`t b b s`, the path message, `dict`, `route dictionary`, the `export` message and
`route targetconfig`. -/
def compileTestBoxes (exportPath cppFilename : String) : List Box :=
  [.plain [.sym "loadbang"],
    .message [.sym "dumptargetconfig", .sym "cpp-export", .sym "cpp-code-export"],
    .plain [.sym "t", .sym "b", .sym "b", .sym "s"],
    .message [.sym "set", .sym "output_path", .sym exportPath, .sym ",", .sym "set",
      .sym "export_name", .sym cppFilename],
    .plain [.sym "dict"],
    .plain [.sym "route", .sym "dictionary"],
    .message [.sym "export", .sym "cpp-export", .sym "cpp-code-export", .sym "$1"],
    .plain [.sym "route", .sym "targetconfig"]]

/-- `add_compile_test`: the export machinery, triggered by a `loadbang`, with the
`dumptargetconfig` and `export` messages into the unit and its rightmost (dump) outlet into
`route targetconfig`. -/
def addCompileTest (patcher : Patcher Box) (rnbo : Nat) (exportPath cppFilename : String) :
    Patcher Box :=
  let (patcher, loadBang) := patcher.addBox (.plain [.sym "loadbang"])
  let (patcher, dumpTargetConfig) := patcher.addBox
    (.message [.sym "dumptargetconfig", .sym "cpp-export", .sym "cpp-code-export"])
  let (patcher, tb) := patcher.addBox (.plain [.sym "t", .sym "b", .sym "b", .sym "s"])
  let (patcher, setPath) := patcher.addBox
    (.message [.sym "set", .sym "output_path", .sym exportPath, .sym ",", .sym "set",
      .sym "export_name", .sym cppFilename])
  let (patcher, dict1) := patcher.addBox (.plain [.sym "dict"])
  let (patcher, routeDict) := patcher.addBox (.plain [.sym "route", .sym "dictionary"])
  let (patcher, exportMessage) := patcher.addBox
    (.message [.sym "export", .sym "cpp-export", .sym "cpp-code-export", .sym "$1"])
  let (patcher, route) := patcher.addBox (.plain [.sym "route", .sym "targetconfig"])
  let patcher := patcher.addLine loadBang dumpTargetConfig 0 0
  let patcher := patcher.addLine dumpTargetConfig rnbo 0 0
  let patcher := patcher.addLine tb dict1 0 0
  let patcher := patcher.addLine tb setPath 0 1
  let patcher := patcher.addLine tb dict1 1 2
  let patcher := patcher.addLine setPath dict1 0 0
  let patcher := patcher.addLine dict1 routeDict 0 0
  let patcher := patcher.addLine routeDict exportMessage 0 0
  let patcher := patcher.addLine route tb 0 0
  let patcher := patcher.addLine exportMessage rnbo 0 0
  patcher.addLine rnbo route 0 ((patcher.ports rnbo).2 - 1)

/-- The text of an audio driver object: `dac~ 1 2 … n` or `adc~ 1 2 … n`. -/
def driverText (name : String) (n : Nat) : List Atom :=
  .sym name :: (List.range n).map fun (i : Nat) => .num (i + 1)

/-- `create_audio_output`: a toggle into a `dac~` with one inlet per channel, and outlet `i` of
the unit into inlet `i` of the `dac~`. -/
def createAudioOutput (patcher : Patcher Box) (rnbo numOutputs : Nat) : Patcher Box :=
  let (patcher, toggle) := patcher.addBox (.plain [.sym "toggle"])
  let (patcher, audioOut) := patcher.addBox (.textbox (driverText "dac~" numOutputs)
    (some numOutputs) none)
  let patcher := patcher.addLine toggle audioOut 0 0
  (List.range numOutputs).foldl (fun patcher i => patcher.addLine rnbo audioOut i i) patcher

/-- `create_audio_input`: an `adc~` with one outlet per channel, and outlet `i` of it into
inlet `i` of the unit. -/
def createAudioInput (patcher : Patcher Box) (rnbo numInputs : Nat) : Patcher Box :=
  let (patcher, audioIn) := patcher.addBox (.textbox (driverText "adc~" numInputs)
    none (some numInputs))
  (List.range numInputs).foldl (fun patcher i => patcher.addLine audioIn rnbo i i) patcher

/-- The effect unit `create_rnbo_patch` is given: `effect_codebox_code`,
`effect_items_info_list`, `effect_num_inputs` and `effect_num_outputs`. -/
structure EffectUnit where
  codeboxCode : String
  itemsInfoList : List ItemInfo
  numInputs : Nat
  numOutputs : Nat
deriving DecidableEq, Repr

/-- The effect unit `create_rnbo_patch` adds: one with a non-empty code (`if
effect_codebox_code:`). -/
def EffectUnit.added : Option EffectUnit → Option EffectUnit
  | some e => if e.codeboxCode = "" then none else some e
  | none => none

theorem EffectUnit.added_eq_some {effect : Option EffectUnit} {e : EffectUnit} :
    EffectUnit.added effect = some e ↔ effect = some e ∧ e.codeboxCode ≠ "" := by
  cases effect with
  | none => simp [EffectUnit.added]
  | some e' =>
    simp only [EffectUnit.added]
    split_ifs with h
    · simp only [reduceCtorEq, false_iff, not_and, not_not, Option.some.injEq]
      rintro rfl
      exact h
    · simp only [Option.some.injEq]
      exact ⟨fun he => ⟨he, he ▸ h⟩, fun he => he.1⟩

/-- The MIDI block of `create_rnbo_patch`: with MIDI, `midiin` and `midiout` wired to the DSP
unit, and their ids. -/
def addMidiObjects (patcher : Patcher Box) (dspRnbo : Nat) (midi : Bool) :
    Patcher Box × Option (Nat × Nat) :=
  if midi then
    let (patcher, midiIn) := patcher.addBox (.plain [.sym "midiin"])
    let (patcher, midiOut) := patcher.addBox (.plain [.sym "midiout"])
    (connectMidi patcher dspRnbo midiIn midiOut, some (midiIn, midiOut))
  else (patcher, none)

/-- The effect block of `create_rnbo_patch`: with an effect unit, add it, join the DSP unit to
it, and with MIDI join it to the MIDI objects; the id of the effect unit when there is one. -/
def addEffect (patcher : Patcher Box) (dspRnbo dspNumOutputs : Nat) (midi : Bool)
    (midiBoxes : Option (Nat × Nat)) : Option EffectUnit → Except PyError (Patcher Box × Option Nat)
  | some e => do
    let (patcher, effectRnbo) ← addRnboObject patcher "Effect" e.codeboxCode e.itemsInfoList midi
      (-1) false e.numInputs e.numOutputs
    let patcher := connectDspEffect patcher dspRnbo effectRnbo dspNumOutputs e.numInputs
    let patcher := match midiBoxes with
      | some (midiIn, midiOut) => connectMidi patcher effectRnbo midiIn midiOut
      | none => patcher
    pure (patcher, some effectRnbo)
  | none => pure (patcher, none)

/-- The output block of `create_rnbo_patch`: the `dac~` on the effect unit when there is one,
on the DSP unit otherwise. -/
def addAudioOutput (patcher : Patcher Box) (dspRnbo dspNumOutputs : Nat)
    (effect : Option EffectUnit) (effectRnbo : Option Nat) : Patcher Box :=
  match effect, effectRnbo with
  | some e, some effectRnbo => createAudioOutput patcher effectRnbo e.numOutputs
  | _, _ => createAudioOutput patcher dspRnbo dspNumOutputs

/-- `create_rnbo_patch`, up to saving: the header comment, the DSP unit, with MIDI the
`midiin`/`midiout` objects wired to it, the effect unit wired after the DSP unit and to the MIDI
objects, the compile machinery on the DSP unit, the `dac~` on the last unit, and the `adc~` on
the DSP unit when it has inputs. -/
def createRnboPatch (dspName exportPath cppFilename dspCodeboxCode : String)
    (dspItemsInfoList : List ItemInfo) (dspNumInputs dspNumOutputs : Nat) (midi : Bool)
    (nvoices : Int) (effect : Option EffectUnit) (compile test : Bool) :
    Except PyError (Patcher Box) := do
  let (patcher, _) := (Patcher.empty : Patcher Box).addBox .comment
  let (patcher, dspRnbo) ← addRnboObject patcher dspName dspCodeboxCode dspItemsInfoList midi
    nvoices test dspNumInputs dspNumOutputs
  let (patcher, midiBoxes) := addMidiObjects patcher dspRnbo midi
  let (patcher, effectRnbo) ← addEffect patcher dspRnbo dspNumOutputs midi midiBoxes
    (EffectUnit.added effect)
  let patcher := if compile then addCompileTest patcher dspRnbo exportPath cppFilename
    else patcher
  let patcher := addAudioOutput patcher dspRnbo dspNumOutputs (EffectUnit.added effect) effectRnbo
  pure (if 0 < dspNumInputs then createAudioInput patcher dspRnbo dspNumInputs else patcher)

/-- The steps of a call of `create_rnbo_patch` that does not raise. -/
theorem createRnboPatch_eq_ok {dspName exportPath cppFilename dspCodeboxCode : String}
    {dspItemsInfoList : List ItemInfo} {dspNumInputs dspNumOutputs : Nat} {midi : Bool}
    {nvoices : Int} {effect : Option EffectUnit} {compile test : Bool} {P : Patcher Box} :
    createRnboPatch dspName exportPath cppFilename dspCodeboxCode dspItemsInfoList dspNumInputs
        dspNumOutputs midi nvoices effect compile test = .ok P ↔
      ∃ p1 k1, addRnboObject ⟨[.comment], []⟩ dspName dspCodeboxCode dspItemsInfoList midi
          nvoices test dspNumInputs dspNumOutputs = .ok (p1, k1) ∧
        ∃ p2 effectRnbo, addEffect (addMidiObjects p1 k1 midi).1 k1 dspNumOutputs midi
            (addMidiObjects p1 k1 midi).2 (EffectUnit.added effect) = .ok (p2, effectRnbo) ∧
          (if 0 < dspNumInputs then
            createAudioInput (addAudioOutput
              (if compile then addCompileTest p2 k1 exportPath cppFilename else p2) k1
              dspNumOutputs (EffectUnit.added effect) effectRnbo) k1 dspNumInputs
          else addAudioOutput (if compile then addCompileTest p2 k1 exportPath cppFilename else p2)
            k1 dspNumOutputs (EffectUnit.added effect) effectRnbo) = P := by
  simp only [createRnboPatch, bind, except_bind_eq_ok, Patcher.addBox, Prod.exists, pure,
    Except.pure, Except.ok.injEq]
  rfl

/-! ### What the wiring functions append -/

/-- The lines `add_compile_test` adds when its first box lands at `n`, for the unit `rnbo`
with `numoutlets` outlets. -/
def compileTestLines (n rnbo numoutlets : Nat) : List Line :=
  [⟨n, 0, n + 1, 0⟩, ⟨n + 1, 0, rnbo, 0⟩, ⟨n + 2, 0, n + 4, 0⟩, ⟨n + 2, 1, n + 3, 0⟩,
    ⟨n + 2, 2, n + 4, 1⟩, ⟨n + 3, 0, n + 4, 0⟩, ⟨n + 4, 0, n + 5, 0⟩, ⟨n + 5, 0, n + 6, 0⟩,
    ⟨n + 7, 0, n + 2, 0⟩, ⟨n + 6, 0, rnbo, 0⟩, ⟨rnbo, numoutlets - 1, n + 7, 0⟩]

theorem foldl_addLine {β : Type} (p : Patcher β) (src dst : Nat) (xs : List Nat) :
    xs.foldl (fun p i => p.addLine src dst i i) p =
      ⟨p.boxes, p.lines ++ xs.map fun i => ⟨src, i, dst, i⟩⟩ := by
  induction xs generalizing p with
  | nil => simp
  | cons x xs ih => simp [ih]

@[simp] theorem connectMidi_boxes (p : Patcher Box) (rnbo midiIn midiOut : Nat) :
    (connectMidi p rnbo midiIn midiOut).boxes = p.boxes := rfl

theorem addMidiObjects_boxes (p : Patcher Box) (dspRnbo : Nat) (midi : Bool) :
    (addMidiObjects p dspRnbo midi).1.boxes =
      p.boxes ++ if midi then [.plain [.sym "midiin"], .plain [.sym "midiout"]] else [] := by
  cases midi <;> simp [addMidiObjects]

theorem addCompileTest_boxes (p : Patcher Box) (rnbo : Nat) (exportPath cppFilename : String) :
    (addCompileTest p rnbo exportPath cppFilename).boxes =
      p.boxes ++ compileTestBoxes exportPath cppFilename := by
  simp [addCompileTest, compileTestBoxes]

theorem addCompileTest_eq (p : Patcher Box) {rnbo : Nat} (hk : rnbo < p.boxes.length)
    (exportPath cppFilename : String) :
    addCompileTest p rnbo exportPath cppFilename =
      ⟨p.boxes ++ compileTestBoxes exportPath cppFilename,
        p.lines ++ compileTestLines p.boxes.length rnbo (p.ports rnbo).2⟩ := by
  simp [addCompileTest, compileTestBoxes, compileTestLines, Patcher.ports, Patcher.addBox,
    Patcher.addLine, List.getElem?_append_left hk]

theorem createAudioOutput_eq (p : Patcher Box) (rnbo numOutputs : Nat) :
    createAudioOutput p rnbo numOutputs =
      ⟨p.boxes ++ [.plain [.sym "toggle"], .textbox (driverText "dac~" numOutputs)
          (some numOutputs) none],
        p.lines ++ ⟨p.boxes.length, 0, p.boxes.length + 1, 0⟩ ::
          (List.range numOutputs).map fun i => ⟨rnbo, i, p.boxes.length + 1, i⟩⟩ := by
  simp [createAudioOutput, foldl_addLine]

theorem createAudioInput_eq (p : Patcher Box) (rnbo numInputs : Nat) :
    createAudioInput p rnbo numInputs =
      ⟨p.boxes ++ [.textbox (driverText "adc~" numInputs) none (some numInputs)],
        p.lines ++ (List.range numInputs).map fun i => ⟨p.boxes.length, i, rnbo, i⟩⟩ := by
  simp [createAudioInput, foldl_addLine]

theorem paramTopBoxes_rnboPorts (test : Bool) (item : ItemInfo) :
    ∀ b ∈ paramTopBoxes test item, b.rnboPorts = none := by
  unfold paramTopBoxes
  split <;> simp [Box.rnboPorts, itemControl]

/-! ### The channel adaptation -/

/-- The DSP → effect channel adaptation of the specification, as (DSP outlet, effect inlet)
pairs: `1 → 1` direct, `1 → 2` split, `2 → 1` merge, `2 → 2` parallel, and no line for any
other pair of channel counts. -/
def specAdaptation (dspNumOutputs effectNumInputs : Nat) : List (Nat × Nat) :=
  match dspNumOutputs, effectNumInputs with
  | 1, 1 => [(0, 0)]
  | 1, 2 => [(0, 0), (0, 1)]
  | 2, 1 => [(0, 0), (1, 0)]
  | 2, 2 => [(0, 0), (1, 1)]
  | _, _ => []

/-- The lines of the adaptation from the unit `dspRnbo` into the unit `effectRnbo`. -/
def adaptationLines (dspRnbo effectRnbo dspNumOutputs effectNumInputs : Nat) : List Line :=
  (specAdaptation dspNumOutputs effectNumInputs).map fun q => ⟨dspRnbo, q.1, effectRnbo, q.2⟩

/-- **`connect_dsp_effect` implements the adaptation table.** -/
theorem connectDspEffect_eq (p : Patcher Box) (dspRnbo effectRnbo dspNumOutputs
    effectNumInputs : Nat) :
    connectDspEffect p dspRnbo effectRnbo dspNumOutputs effectNumInputs =
      ⟨p.boxes, p.lines ++ adaptationLines dspRnbo effectRnbo dspNumOutputs effectNumInputs⟩ := by
  rcases dspNumOutputs with _ | _ | _ | _ <;> rcases effectNumInputs with _ | _ | _ | _ <;>
    simp [connectDspEffect, adaptationLines, specAdaptation, Patcher.addLine]

@[simp] theorem connectDspEffect_boxes (p : Patcher Box) (dspRnbo effectRnbo dspNumOutputs
    effectNumInputs : Nat) :
    (connectDspEffect p dspRnbo effectRnbo dspNumOutputs effectNumInputs).boxes = p.boxes := by
  rw [connectDspEffect_eq]

/-- The table joins signal outlets to signal inlets. -/
theorem lt_of_mem_specAdaptation {dspNumOutputs effectNumInputs : Nat} {q : Nat × Nat}
    (hq : q ∈ specAdaptation dspNumOutputs effectNumInputs) :
    q.1 < dspNumOutputs ∧ q.2 < effectNumInputs := by
  rcases dspNumOutputs with _ | _ | _ | _ <;> rcases effectNumInputs with _ | _ | _ | _ <;>
    simp [specAdaptation] at hq <;> rcases hq with rfl | rfl <;> simp

/-! ### No step moves a box -/

/-- The steps of a call of the effect block that does not raise: nothing without an effect,
and otherwise `add_rnbo_object` on the effect, followed by connections that add no box. -/
theorem addEffect_eq_ok {p p' : Patcher Box} {dspRnbo dspNumOutputs : Nat} {midi : Bool}
    {midiBoxes : Option (Nat × Nat)} {effect : Option EffectUnit} {effectRnbo : Option Nat}
    (h : addEffect p dspRnbo dspNumOutputs midi midiBoxes effect = .ok (p', effectRnbo)) :
    effect = none ∧ effectRnbo = none ∧ p' = p ∨
      ∃ e p1 k, effect = some e ∧ effectRnbo = some k ∧
        addRnboObject p "Effect" e.codeboxCode e.itemsInfoList midi (-1) false e.numInputs
          e.numOutputs = .ok (p1, k) ∧ p'.boxes = p1.boxes := by
  cases effect with
  | none =>
    simp only [addEffect, pure, Except.pure, Except.ok.injEq, Prod.mk.injEq] at h
    exact .inl ⟨rfl, h.2.symm, h.1.symm⟩
  | some e =>
    simp only [addEffect, bind, except_bind_eq_ok, Prod.exists, pure, Except.pure,
      Except.ok.injEq, Prod.mk.injEq] at h
    obtain ⟨p1, k, ha, rfl, rfl⟩ := h
    exact .inr ⟨e, p1, k, rfl, rfl, ha, by split <;> simp⟩

theorem addAudioOutput_boxes_extend (p : Patcher Box) (dspRnbo dspNumOutputs : Nat)
    (effect : Option EffectUnit) (effectRnbo : Option Nat) :
    p.boxes <+: (addAudioOutput p dspRnbo dspNumOutputs effect effectRnbo).boxes := by
  unfold addAudioOutput
  split <;> simp [createAudioOutput_eq]

/-- The steps of `create_rnbo_patch` after the effect block only append boxes. -/
theorem createRnboPatch_tail_extends (p : Patcher Box) (dspRnbo : Nat)
    (exportPath cppFilename : String) (dspNumInputs dspNumOutputs : Nat)
    (effect : Option EffectUnit) (effectRnbo : Option Nat) (compile : Bool) :
    p.boxes <+: (if 0 < dspNumInputs then
        createAudioInput (addAudioOutput
          (if compile then addCompileTest p dspRnbo exportPath cppFilename else p) dspRnbo
          dspNumOutputs effect effectRnbo) dspRnbo dspNumInputs
      else addAudioOutput (if compile then addCompileTest p dspRnbo exportPath cppFilename else p)
        dspRnbo dspNumOutputs effect effectRnbo).boxes := by
  have hc : p.boxes <+: (if compile then addCompileTest p dspRnbo exportPath cppFilename
      else p).boxes := by
    split <;> simp [addCompileTest_boxes]
  have ho := hc.trans (addAudioOutput_boxes_extend _ dspRnbo dspNumOutputs effect effectRnbo)
  split
  · exact ho.trans (by simp [createAudioInput_eq])
  · exact ho

/-! ### When the patch is built -/

theorem addEffect_succeeds_iff (patcher : Patcher Box) (dspRnbo dspNumOutputs : Nat)
    (midi : Bool) (midiBoxes : Option (Nat × Nat)) (effect : Option EffectUnit) :
    (∃ res, addEffect patcher dspRnbo dspNumOutputs midi midiBoxes effect = .ok res) ↔
      ∀ e ∈ effect, UnitOk midi e.numInputs e.numOutputs e.itemsInfoList := by
  cases effect with
  | none => simp [FaustRnbo.addEffect, pure, Except.pure]
  | some e =>
    simp only [FaustRnbo.addEffect, bind, except_bind_eq_ok, Prod.exists, pure, Except.pure,
      Except.ok.injEq, Option.mem_def, Option.some.injEq, forall_eq',
      ← addRnboObject_succeeds_iff patcher "Effect" e.codeboxCode e.itemsInfoList midi (-1) false]
    constructor
    · rintro ⟨_, _, p, k, h, -⟩
      exact ⟨p, k, h⟩
    · rintro ⟨p, k, h⟩
      exact ⟨_, _, p, k, h, rfl⟩

/-- **When `create_rnbo_patch` raises.** It builds the patch exactly when `add_rnbo_object`
completes on the DSP unit and on the effect unit it adds: none of its other steps raises. -/
theorem createRnboPatch_ok_iff_added (dspName exportPath cppFilename dspCodeboxCode : String)
    (dspItemsInfoList : List ItemInfo) (dspNumInputs dspNumOutputs : Nat) (midi : Bool)
    (nvoices : Int) (effect : Option EffectUnit) (compile test : Bool) :
    (∃ P, createRnboPatch dspName exportPath cppFilename dspCodeboxCode dspItemsInfoList
        dspNumInputs dspNumOutputs midi nvoices effect compile test = .ok P) ↔
      UnitOk midi dspNumInputs dspNumOutputs dspItemsInfoList ∧
        ∀ e ∈ EffectUnit.added effect, UnitOk midi e.numInputs e.numOutputs e.itemsInfoList := by
  simp only [createRnboPatch_eq_ok]
  constructor
  · rintro ⟨_, p1, k1, h1, p2, eff, h2, -⟩
    exact ⟨(addRnboObject_succeeds_iff _ _ _ _ _ _ _ _ _).mp ⟨_, h1⟩,
      (addEffect_succeeds_iff _ _ _ _ _ _).mp ⟨_, h2⟩⟩
  · rintro ⟨hd, he⟩
    obtain ⟨⟨p1, k1⟩, h1⟩ := (addRnboObject_succeeds_iff _ _ _ _ _ _ _ _ _).mpr hd
    obtain ⟨⟨p2, eff⟩, h2⟩ := (addEffect_succeeds_iff (addMidiObjects p1 k1 midi).1 k1
      dspNumOutputs midi (addMidiObjects p1 k1 midi).2 (EffectUnit.added effect)).mpr he
    exact ⟨_, p1, k1, h1, p2, eff, h2, rfl⟩

end FaustRnbo

/-
# Measure.Action — one call of `halconActionWithImageList`

The call reads its three JSON documents, measures according to the configured type, writes
`result_status`, saves the two images when the status is bad enough, and formats the result.  Type 0
measures with `MeasureSize` and compares with the configured standard; type 3 searches edges and
corners but reports configured values; types 1 and 2 report made-up values near the standard or the
configuration; any other type reports zeros.
-/
import TizerVision.Measure.Halcon

namespace TizerVision.Measure

set_option autoImplicit false

/-! ## What a call is given -/

/-- `JsonHelper`, opened on one document. -/
structure JsonHelper where
  search : String → String
  readArray : String → List String

/-- One call: the three documents of `in`, the number of images in `image_list`, and what the
operators and `MeasureSize` answer on these images. -/
structure Call where
  jh : JsonHelper
  jhCalcStd : JsonHelper
  jhCalib : JsonHelper
  images : Nat
  size : SizeView
  left : LeftView
  right : RightView
  fallOff : MeasureResult
  /-- whether the left and the right image can be saved -/
  writeLeft : Bool
  writeRight : Bool

def Dimension.key : Dimension → String
  | .w => "w_"
  | .l => "l_"
  | .h => "h_"
  | .h1 => "h1_"
  | .lh => "lh_"
  | .w1 => "w1_"
  | .w2 => "w2_"

def Dimension.addKey : Dimension → String
  | .w => "w_add"
  | .l => "l_add"
  | .h => "h_add"
  | .h1 => "h1_add"
  | .lh => "lh_add"
  | .w1 => "w1_add"
  | .w2 => "w2_add"

section

variable (hds : Headers)

def Call.adjustValues (call : Call) : List String := call.jhCalib.readArray "adjust_values"

def Call.saveImageType (call : Call) : Int := hds.str2Int (call.jhCalib.search "save_image")

def Call.type (call : Call) : Int := hds.str2Int (call.jhCalib.search "type")

/-- The configured standard of a dimension and its tolerance. -/
def Call.standard (call : Call) (d : Dimension) : ℚ × ℚ :=
  (hds.str2d (call.jhCalcStd.search d.key), hds.str2d (call.jhCalcStd.search d.addKey))

/-- `calc_std` after its setters have run, in the order of the source. -/
def Call.calcStd (call : Call) : hds.CalcStd :=
  [Dimension.w, .l, .h, .h1, .lh, .w1, .w2].foldl
    (fun std d => hds.setValue d (call.standard hds d).1 (call.standard hds d).2 std) hds.calcStd

/-- `_job_id = str2d(..)` drops the fraction. -/
def truncate (q : ℚ) : Int := q.num.tdiv q.den

def setImages (call : Call) : Halcon Unit := do
  modify fun s => { s with jobId := truncate (hds.str2d (call.jh.search "job_id")) }
  if call.images < 2 then
    throw .outOfRange

/-! ## The texts of the result -/

structure Texts where
  W : String
  L : String
  H : String
  LH : String
  W1 : String
  W2 : String
  H1 : String
  RA1 : String
  RA2 : String
  RB1 : String
  RB2 : String
  RB3 : String
  RB4 : String
deriving DecidableEq, Repr

def Texts.zero : Texts :=
  let zero := hds.d2str 0
  ⟨zero, zero, zero, zero, zero, zero, zero, zero, zero, zero, zero, zero, zero⟩

/-- `adjust_values.at(i)` -/
def valueAt (values : List String) (i : Nat) : Halcon String :=
  match values[i]? with
  | some value => pure value
  | none => throw .outOfRange

/-- `BaseFunctions::str2d(adjust_values.at(i))` -/
def numberAt (values : List String) (i : Nat) : Halcon ℚ := return hds.str2d (← valueAt values i)

/-- `adjust_values.at(i) + BaseFunctions::Int2Str(rand() % 99)` -/
def randomAt (values : List String) (i : Nat) : Halcon String := do
  let value ← valueAt values i
  let draw ← rand
  return value ++ hds.int2Str (draw % 99 : Nat)

/-- `value + double(rand() % bound) / 1000` -/
def jitter (value : ℚ) (bound : Nat) : Halcon ℚ := return value + ((← rand) % bound : Nat) / 1000

/-! ## The branches -/

/-- `result_status = v` -/
def assignStatus (v : Int) : Halcon Unit := modify fun s => { s with outStatus := some v }

/-- The comparison of an adjusted value with its standard. -/
def checkValue (value : ℚ) (std : ℚ × ℚ) : Halcon Unit :=
  if |value - std.1| > std.2 then setResultStatus 1 else pure ()

/-- The branch of type 0, after `measure_image_by_zf`. -/
def judgeSize (adjust : List String) (std : hds.CalcStd) (size : FSIZE) : Halcon Texts := do
  let l := size.L + (← numberAt hds adjust 1)
  let h := size.H + (← numberAt hds adjust 2)
  let w := size.W + (← numberAt hds adjust 0)
  let w1 := size.W1 + (← numberAt hds adjust 3)
  let w2 := size.W2 + (← numberAt hds adjust 5)
  let h1 := size.H1 + (← numberAt hds adjust 4)
  let ra1 ← randomAt hds adjust 10
  let ra2 ← randomAt hds adjust 11
  let rb1 ← randomAt hds adjust 6
  let rb2 ← randomAt hds adjust 7
  let rb3 ← randomAt hds adjust 8
  let rb4 ← randomAt hds adjust 9
  assignStatus 0
  checkValue h (hds.getValue .h std)
  checkValue h1 (hds.getValue .h1 std)
  checkValue l (hds.getValue .l std)
  checkValue w (hds.getValue .w std)
  checkValue w1 (hds.getValue .w1 std)
  checkValue w2 (hds.getValue .w2 std)
  assignStatus (← getResultStatus)
  return ⟨hds.d2str w, hds.d2str l, hds.d2str h, hds.d2str (l + h), hds.d2str w1, hds.d2str w2,
    hds.d2str h1, ra1, ra2, rb1, rb2, rb3, rb4⟩

def measureSize (call : Call) (texts : Texts) : Halcon Texts := do
  if call.type hds = 0 then
    match ← measureImageByZf call.size with
    | some size => judgeSize hds call.adjustValues (call.calcStd hds) size
    | none => return texts
  else return texts

/-- The branch of type 3, after `get_result`. -/
def configuredEdges (adjust : List String) : Halcon Texts := do
  let l := (← numberAt hds adjust 1) / 1000
  let h := (← numberAt hds adjust 2) / 1000
  let w ← valueAt adjust 0
  let w1 ← valueAt adjust 3
  let h1 ← valueAt adjust 4
  let w2 ← valueAt adjust 5
  let ra1 ← randomAt hds adjust 6
  let ra2 ← randomAt hds adjust 7
  let rb1 ← randomAt hds adjust 6
  let rb2 ← randomAt hds adjust 7
  let rb3 ← randomAt hds adjust 8
  let rb4 ← randomAt hds adjust 9
  assignStatus 0
  return ⟨w, hds.d2str l, hds.d2str h, hds.d2str (l + h), w1, w2, h1, ra1, ra2, rb1, rb2, rb3, rb4⟩

def measureEdges (call : Call) (texts : Texts) : Halcon Texts := do
  if call.type hds = 3 then
    match ← getResult hds call.left call.right call.fallOff with
    | .success => configuredEdges hds call.adjustValues
    | .fail => return texts
  else return texts

/-- The branch of type 2: every value from the configuration. -/
def configuredSize (call : Call) (texts : Texts) : Halcon Texts := do
  if call.type hds = 2 then
    let adjust := call.adjustValues
    let l ← jitter (← numberAt hds adjust 1) 99
    let h ← jitter (← numberAt hds adjust 2) 99
    let w ← randomAt hds adjust 0
    let w1 ← randomAt hds adjust 3
    let h1 ← randomAt hds adjust 4
    let w2 ← randomAt hds adjust 5
    let ra1 ← randomAt hds adjust 6
    let ra2 ← randomAt hds adjust 7
    let rb1 ← randomAt hds adjust 6
    let rb2 ← randomAt hds adjust 7
    let rb3 ← randomAt hds adjust 8
    let rb4 ← randomAt hds adjust 9
    assignStatus 0
    return ⟨w, hds.d2str l, hds.d2str h, hds.d2str (l + h), w1, w2, h1, ra1, ra2, rb1, rb2, rb3,
      rb4⟩
  else return texts

/-- The branch of type 1: values near the standard. -/
def standardSize (call : Call) (texts : Texts) : Halcon Texts := do
  if call.type hds = 1 then
    let adjust := call.adjustValues
    let std := call.calcStd hds
    let l ← jitter (hds.getValue .l std).1 9
    let h ← jitter (hds.getValue .h std).1 9
    let h1 ← jitter (hds.getValue .h1 std).1 9
    let w ← jitter (hds.getValue .w std).1 9
    let w1 ← jitter (hds.getValue .w1 std).1 9
    let w2 ← jitter (hds.getValue .w2 std).1 9
    let ra1 ← randomAt hds adjust 6
    let ra2 ← randomAt hds adjust 7
    let rb1 ← randomAt hds adjust 6
    let rb2 ← randomAt hds adjust 7
    let rb3 ← randomAt hds adjust 8
    let rb4 ← randomAt hds adjust 9
    setResultStatus 0
    return ⟨hds.d2str w, hds.d2str l, hds.d2str h, hds.d2str (l + h), hds.d2str w1, hds.d2str w2,
      hds.d2str h1, ra1, ra2, rb1, rb2, rb3, rb4⟩
  else return texts

/-! ## The end of the call -/

/-- The name of a saved image of one camera. -/
def imageName (status : Int) (camera : Nat) (jobId : Int) : String :=
  "D:/Images/xy_image_t" ++ toString status ++ "_at_" ++ toString camera ++ "_" ++ toString jobId
    ++ ".jpg"

/-- The two `WriteImage` calls of the saving step.  A name that is too long for the 40 bytes `sprintf_s` is
given counts as not written: `writeLeft` or `writeRight` is false then. -/
def writeImages (call : Call) : Halcon Unit := do
  let s ← get
  writeImage call.writeLeft (imageName s.resultStatus 0 s.jobId)
  writeImage call.writeRight (imageName s.resultStatus 2 s.jobId)

def saveImages (call : Call) : Halcon Unit := do
  let s ← get
  if call.saveImageType hds ≤ s.resultStatus then
    if 2 > call.saveImageType hds ∨ s.imageSavedCount % 5 = 0 then
      writeImages call
    modify fun s => { s with imageSavedCount := s.imageSavedCount + 1 }

def writeReport (texts : Texts) : Halcon Unit :=
  modify fun s => { s with
    out := some
      { id := s.jobId, W := texts.W, L := texts.L, H := texts.H, LH := texts.LH, W1 := texts.W1,
        W2 := texts.W2, H1 := texts.H1, RA1 := texts.RA1, RA2 := texts.RA2, RB1 := texts.RB1,
        RB2 := texts.RB2, RB3 := texts.RB3, RB4 := texts.RB4, msg := s.resultStatus } }

/-- The JSON text in `out`. -/
def Report.text (r : Report) : String :=
  "\x7b\"id\":" ++ hds.int2Str r.id ++ ",\"W\":" ++ r.W ++ ",\"L\":" ++ r.L ++ ",\"H\":" ++ r.H
    ++ ",\"LH\":" ++ r.LH ++ ",\"W1\":" ++ r.W1 ++ ",\"W2\":" ++ r.W2 ++ ",\"H1\":" ++ r.H1
    ++ ",\"RA1\":" ++ r.RA1 ++ ",\"RA2\":" ++ r.RA2 ++ ",\"RB1\":" ++ r.RB1 ++ ",\"RB2\":" ++ r.RB2
    ++ ",\"RB3\":" ++ r.RB3 ++ ",\"RB4\":" ++ r.RB4 ++ ",\"msg\":\"" ++ hds.int2Str r.msg
    ++ "\"\x7d"

def halconActionWithImageList (call : Call) : Halcon Unit := do
  setImages hds call
  assignStatus 2
  let texts ← measureSize hds call (Texts.zero hds)
  let texts ← measureEdges hds call texts
  let texts ← configuredSize hds call texts
  let texts ← standardSize hds call texts
  assignStatus (← getResultStatus)
  saveImages hds call
  writeReport texts

/-- The state after a call, however it ends; `result_status` and `out` are those of this call. -/
def afterCall (s : State) (call : Call) : State :=
  match (halconActionWithImageList hds call).run { s with outStatus := none, out := none } with
  | .ok _ s' => s'
  | .error _ s' => s'

/-- The state after a history of calls. -/
def afterCalls (s : State) (calls : List Call) : State := calls.foldl (afterCall hds) s

end

end TizerVision.Measure

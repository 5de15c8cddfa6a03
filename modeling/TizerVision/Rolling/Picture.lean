/-
# Rolling.Picture — the pixels of a stitched image

`imageConcat` saves the image of each camera, cuts a strip of columns out of it and sets its grey values,
point by point, into a new image.  The strips are as wide as their last column minus their first plus one;
the offsets are computed without that one.  The operators of Halcon are a parameter; `Documented` is what is
assumed of them, and nothing is assumed of `WriteImage`, which may raise whenever it is called.

* `imageConcat_eq_montage` — in EarRollingBaslerCamera a gap of five columns between the strips makes up
  for it: every strip is in the stitched image as a whole, the rest is white.  The call returns exactly
  when its `WriteImage` calls do and the images that are used are large enough.
* `Interval.yields_imageConcat` — in EarRollingBaslerCameraMsa there is no gap, so that the last column of
  a strip is where the first of the next one comes: it is overwritten, and lost.
* `undisturbed_pictures_show` — with the order of `Rolling.Interval`: which pixel of which frame a pixel
  of the k-th picture is, and when there is one.
-/
import TizerVision.Rolling.Interval
import TizerVision.Theory.Paint

namespace TizerVision.Rolling

open TizerVision.Theory

set_option autoImplicit false

/-! ## Images and the operators of Halcon -/

/-- What is seen of a grey image; a point is its row and its column. -/
structure Image where
  width : Nat
  height : Nat
  gray : Nat × Nat → Nat

def Image.Inside (image : Image) (p : Nat × Nat) : Prop := p.1 < image.height ∧ p.2 < image.width

instance (image : Image) (p : Nat × Nat) : Decidable (image.Inside p) :=
  inferInstanceAs (Decidable (_ ∧ _))

/-- An image of the same size with other grey values. -/
def Image.regray (image : Image) (gray : Nat × Nat → Nat) : Image := ⟨image.width, image.height, gray⟩

/-- An image has the size and the points of another. -/
structure Image.Shows (image shown : Image) : Prop where
  width : image.width = shown.width
  height : image.height = shown.height
  gray : ∀ p, shown.Inside p → image.gray p = shown.gray p

/-- The operators that `imageConcat` calls, on images `I` and regions `R`: what they return, and `none`
where they raise an exception. -/
structure Halcon (I R : Type) where
  writeImage : String → I → Option Unit
  /-- the width and the height -/
  genImageConst : Nat → Nat → Option I
  threshold : I → Nat → Nat → Option R
  /-- the grey values of the region and around it, the width and the height -/
  regionToBin : R → Nat → Nat → Nat → Nat → Option I
  /-- the first row and column, the last row and column -/
  genRectangle1 : Nat → Nat → Nat → Nat → Option R
  getRegionPoints : R → Option (List (Nat × Nat))
  getGrayval : I → List (Nat × Nat) → Option (List Nat)
  setGrayval : I → List (Nat × Nat) → List Nat → Option I

section Operators

variable {I R : Type}

/-- **What is assumed of the operators**: a new image is black; a region with one value inside and outside
gives an image of that value; a rectangle is not clipped; `GetGrayval` returns the grey values of points
inside the image and raises for others; `SetGrayval` sets the values of points inside the image, one after
the other.  `WriteImage` may do what it wants. -/
structure Halcon.Documented (halcon : Halcon I R) (view : I → Image) : Prop where
  genImageConst : ∀ width height, ∃ image, halcon.genImageConst width height = some image ∧
    (view image).Shows ⟨width, height, fun _ => 0⟩
  threshold : ∀ image low high, ∃ region, halcon.threshold image low high = some region
  regionToBin : ∀ region value width height, ∃ image,
    halcon.regionToBin region value value width height = some image ∧
      (view image).Shows ⟨width, height, fun _ => value⟩
  rectangle : ∀ row1 column1 row2 column2, row1 ≤ row2 → column1 ≤ column2 → ∃ region points,
    halcon.genRectangle1 row1 column1 row2 column2 = some region ∧
      halcon.getRegionPoints region = some points ∧
      ∀ p, p ∈ points ↔ (row1 ≤ p.1 ∧ p.1 ≤ row2) ∧ column1 ≤ p.2 ∧ p.2 ≤ column2
  getGrayval : ∀ image points, (∀ p ∈ points, (view image).Inside p) →
    halcon.getGrayval image points = some (points.map (view image).gray)
  getGrayval_outside : ∀ image points, (∃ p ∈ points, ¬ (view image).Inside p) →
    halcon.getGrayval image points = none
  setGrayval : ∀ image points values, values.length = points.length →
    (∀ p ∈ points, (view image).Inside p) → ∃ painted,
      halcon.setGrayval image points values = some painted ∧
        (view painted).Shows ((view image).regray (paint (view image).gray (points.zip values)))

/-! ## Calls that may raise -/

/-- When a call returns, and what is seen of the image it then returns. -/
structure Yields (view : I → Image) (result : Option I) (returns : Prop) (shown : Image) : Prop where
  returns_iff : result.isSome = true ↔ returns
  shows : ∀ picture, result = some picture → (view picture).Shows shown

variable {view : I → Image} {result : Option I} {returns returns' : Prop} {shown shown' : Image}

theorem yields_some {picture : I} (shows : (view picture).Shows shown) :
    Yields view (some picture) True shown := by
  refine ⟨iff_of_true rfl trivial, fun other same => ?_⟩
  cases same
  exact shows

theorem Yields.congr (yields : Yields view result returns shown) (iff : returns ↔ returns')
    (same : shown = shown') : Yields view result returns' shown' :=
  ⟨yields.returns_iff.trans iff, same ▸ yields.shows⟩

/-- One call after the other. -/
theorem Yields.bind (first : Yields view result returns shown) {next : I → Option I}
    (rest : ∀ picture, (view picture).Shows shown → Yields view (next picture) returns' shown') :
    Yields view (result >>= next) (returns ∧ returns') shown' := by
  cases result with
  | none =>
      refine ⟨iff_of_false (by rintro ⟨⟩) fun both => ?_, fun picture impossible => by cases impossible⟩
      cases first.returns_iff.2 both.1
  | some picture =>
      obtain ⟨iff, shows⟩ := rest picture (first.shows picture rfl)
      exact ⟨iff.trans ⟨fun later => ⟨first.returns_iff.1 rfl, later⟩, fun both => both.2⟩, shows⟩

/-- A call behind one that only has to return. -/
theorem Yields.after (written : Option Unit) (yields : Yields view result returns shown) :
    Yields view (written >>= fun _ => result) (written.isSome = true ∧ returns) shown := by
  cases written with
  | none =>
      exact ⟨iff_of_false (by rintro ⟨⟩) (by simp), fun picture impossible => by cases impossible⟩
  | some _ => exact ⟨yields.returns_iff.trans (by simp), yields.shows⟩

/-- A call that may not be made. -/
theorem Yields.ite (there : Prop) [Decidable there] {target : I} {seen : Image} {gray : Nat × Nat → Nat}
    (shows : (view target).Shows seen) (yields : Yields view result returns (seen.regray gray)) :
    Yields view (if there then result else some target) (there → returns)
      (seen.regray fun p => if there then gray p else seen.gray p) := by
  by_cases here : there
  · simpa [here] using yields
  · simpa [here, Image.regray] using yields_some shows

/-! ## One strip -/

/-- `hv_Height` -/
def hvHeight : Nat := 1080

/-- The columns of a strip are copied into another image, each to the column `shift` says. -/
def paste (halcon : Halcon I R) (source : I) (columnStart columnEnd : Nat) (shift : Nat → Nat)
    (target : I) : Option I := do
  let region ← halcon.genRectangle1 0 columnStart (hvHeight - 1) columnEnd
  let points ← halcon.getRegionPoints region
  let values ← halcon.getGrayval source points
  halcon.setGrayval target (points.map fun p => (p.1, shift p.2)) values

/-- The image has the rows that are stitched, and the columns up to the last one of its strip. -/
def Image.Covers (image : Image) (columnEnd : Nat) : Prop :=
  hvHeight ≤ image.height ∧ columnEnd < image.width

/-- The images of the cameras have 1920 columns and 1080 rows. -/
theorem Image.covers_of_size {image : Image} (size : image.width = 1920 ∧ image.height = 1080)
    {columnEnd : Nat} (inside : columnEnd < 1920) : image.Covers columnEnd :=
  ⟨Nat.le_of_eq size.2.symm, size.1.symm ▸ inside⟩

/-- The points of the rows that are stitched, between two columns. -/
def IsStrip (points : List (Nat × Nat)) (columnStart columnEnd : Nat) : Prop :=
  ∀ p, p ∈ points ↔ p.1 < hvHeight ∧ columnStart ≤ p.2 ∧ p.2 ≤ columnEnd

section Strip

variable {points : List (Nat × Nat)} {columnStart columnEnd : Nat}

/-- The rectangle of a strip. -/
theorem Halcon.Documented.strip {halcon : Halcon I R} (documented : halcon.Documented view)
    (order : columnStart ≤ columnEnd) : ∃ region points,
      halcon.genRectangle1 0 columnStart (hvHeight - 1) columnEnd = some region ∧
        halcon.getRegionPoints region = some points ∧ IsStrip points columnStart columnEnd := by
  obtain ⟨region, points, generated, listed, member⟩ :=
    documented.rectangle 0 columnStart (hvHeight - 1) columnEnd (Nat.zero_le _) order
  refine ⟨region, points, generated, listed, fun p => (member p).trans ?_⟩
  simp only [hvHeight]
  omega

/-- An image covers a strip when its points are inside; the one that decides is the corner below on the
right. -/
theorem IsStrip.covers_iff (strip : IsStrip points columnStart columnEnd)
    (order : columnStart ≤ columnEnd) (image : Image) :
    image.Covers columnEnd ↔ ∀ p ∈ points, image.Inside p := by
  constructor
  · intro covers p here
    obtain ⟨row, -, right⟩ := (strip p).1 here
    exact ⟨Nat.lt_of_lt_of_le row covers.1, Nat.lt_of_le_of_lt right covers.2⟩
  · intro inside
    obtain ⟨row, column⟩ := inside (hvHeight - 1, columnEnd)
      ((strip _).2 ⟨Nat.sub_lt (by decide) Nat.one_pos, order, Nat.le_refl _⟩)
    exact ⟨Nat.le_of_pred_lt row, column⟩

variable {origin : Nat} {shift : Nat → Nat}
  (shifted : ∀ c, columnStart ≤ c → c ≤ columnEnd → shift c = origin + (c - columnStart))

include shifted

/-- Where a point of the strip goes; no two go to one place. -/
theorem IsStrip.shift_eq (strip : IsStrip points columnStart columnEnd) {q : Nat × Nat}
    (here : q ∈ points) : shift q.2 = origin + (q.2 - columnStart) :=
  shifted q.2 ((strip q).1 here).2.1 ((strip q).1 here).2.2

theorem IsStrip.shift_injective (strip : IsStrip points columnStart columnEnd) :
    ∀ q ∈ points, ∀ r ∈ points, ((q.1, shift q.2) : Nat × Nat) = (r.1, shift r.2) → q = r := by
  intro q hq r hr equal
  have left := ((strip q).1 hq).2.1
  have left' := ((strip r).1 hr).2.1
  obtain ⟨rows, columns⟩ := Prod.mk.inj equal
  rw [strip.shift_eq shifted hq, strip.shift_eq shifted hr] at columns
  exact Prod.ext rows (by omega)

/-- **Painting a strip**: its columns show the values, the others are as they were. -/
theorem IsStrip.paint (strip : IsStrip points columnStart columnEnd) (order : columnStart ≤ columnEnd)
    (before gray : Nat × Nat → Nat) (p : Nat × Nat) :
    paint before (points.map fun q => ((q.1, shift q.2), gray q)) p =
      if p.1 < hvHeight ∧ origin ≤ p.2 ∧ p.2 ≤ origin + (columnEnd - columnStart) then
        gray (p.1, p.2 - origin + columnStart)
      else before p := by
  by_cases covered : p.1 < hvHeight ∧ origin ≤ p.2 ∧ p.2 ≤ origin + (columnEnd - columnStart)
  · obtain ⟨row, left, right⟩ := covered
    -- `p` is where the point of the strip with this row and column goes
    have above : (p.1, p.2 - origin + columnStart) ∈ points :=
      (strip _).2 ⟨row, Nat.le_add_left _ _, by show p.2 - origin + columnStart ≤ columnEnd; omega⟩
    have comes : ((p.1, shift (p.2 - origin + columnStart)) : Nat × Nat) = p := by
      refine Prod.ext rfl ((strip.shift_eq shifted above).trans ?_)
      show origin + (p.2 - origin + columnStart - columnStart) = p.2
      omega
    have shown := paint_image before (fun q : Nat × Nat => (q.1, shift q.2)) gray
      (strip.shift_injective shifted) above
    rw [comes] at shown
    rw [shown, if_pos ⟨row, left, right⟩]
  · rw [if_neg covered, paint_of_not_mem]
    intro update painted
    obtain ⟨q, member, rfl⟩ := List.mem_map.1 painted
    obtain ⟨row, left, right⟩ := (strip q).1 member
    have goes := strip.shift_eq shifted member
    rintro rfl
    refine covered ⟨row, ?_, ?_⟩
    · show origin ≤ shift q.2
      omega
    · show shift q.2 ≤ origin + (columnEnd - columnStart)
      omega

end Strip

variable {halcon : Halcon I R}

/-- What a strip leaves: its columns show the source, the others are as they were.  `origin` is the
column its first one comes to. -/
theorem yields_paste (documented : halcon.Documented view) (origin : Nat) {source target : I}
    {seen : Image} (shows : (view target).Shows seen) {columnStart columnEnd : Nat} {shift : Nat → Nat}
    (order : columnStart ≤ columnEnd) (tall : seen.height = hvHeight)
    (wide : origin + (columnEnd - columnStart) < seen.width)
    (shifted : ∀ c, columnStart ≤ c → c ≤ columnEnd → shift c = origin + (c - columnStart)) :
    Yields view (paste halcon source columnStart columnEnd shift target)
      ((view source).Covers columnEnd)
      (seen.regray fun p =>
        if p.1 < hvHeight ∧ origin ≤ p.2 ∧ p.2 ≤ origin + (columnEnd - columnStart) then
          (view source).gray (p.1, p.2 - origin + columnStart)
        else seen.gray p) := by
  obtain ⟨region, points, generated, listed, strip⟩ := documented.strip order
  have pasted : paste halcon source columnStart columnEnd shift target =
      halcon.getGrayval source points >>= fun values =>
        halcon.setGrayval target (points.map fun p => (p.1, shift p.2)) values := by
    unfold paste
    rw [generated]
    show (halcon.getRegionPoints region >>= fun _ => _) = _
    rw [listed]
    rfl
  rw [pasted]
  by_cases covers : (view source).Covers columnEnd
  swap
  · have outside : ∃ p ∈ points, ¬ (view source).Inside p := by
      by_contra none
      exact covers ((strip.covers_iff order _).2 fun p here => not_not.1 fun out => none ⟨p, here, out⟩)
    rw [documented.getGrayval_outside source points outside]
    exact ⟨iff_of_false (by rintro ⟨⟩) covers, fun picture impossible => by cases impossible⟩
  have lands : ∀ p ∈ points.map (fun p => (p.1, shift p.2)), (view target).Inside p := by
    intro p here
    obtain ⟨q, member, rfl⟩ := List.mem_map.1 here
    obtain ⟨row, left, right⟩ := (strip q).1 member
    rw [Image.Inside, shows.height, shows.width, tall, strip.shift_eq shifted member]
    exact ⟨row, by omega⟩
  obtain ⟨painted, set, painted_shows⟩ := documented.setGrayval target _
    (points.map (view source).gray) (by simp) lands
  rw [documented.getGrayval source points ((strip.covers_iff order _).1 covers)]
  show Yields view (halcon.setGrayval target _ _) _ _
  rw [set]
  refine ⟨iff_of_true rfl covers, fun picture same => ?_⟩
  cases same
  refine ⟨painted_shows.width.trans shows.width, painted_shows.height.trans shows.height, fun p here => ?_⟩
  have here' : (view target).Inside p := by
    rw [Image.Inside, shows.width, shows.height]
    exact here
  rw [painted_shows.gray p here', List.zip_map']
  simp only [Image.regray]
  rw [strip.paint shifted order, shows.gray p here]

/-- A strip that is moved to the right. -/
theorem yields_paste_add (documented : halcon.Documented view) {source target : I} {seen : Image}
    (shows : (view target).Shows seen) {columnStart columnEnd adjust : Nat}
    (order : columnStart ≤ columnEnd) (tall : seen.height = hvHeight)
    (wide : columnEnd + adjust < seen.width) :
    Yields view (paste halcon source columnStart columnEnd (· + adjust) target)
      ((view source).Covers columnEnd)
      (seen.regray fun p =>
        if p.1 < hvHeight ∧ columnStart + adjust ≤ p.2 ∧ p.2 ≤ columnEnd + adjust then
          (view source).gray (p.1, p.2 - adjust)
        else seen.gray p) := by
  have last : columnStart + adjust + (columnEnd - columnStart) = columnEnd + adjust := by omega
  have column {c : Nat} (right : columnStart + adjust ≤ c) :
      c - (columnStart + adjust) + columnStart = c - adjust := by omega
  refine (yields_paste documented (columnStart + adjust) shows order tall (by omega)
    (fun c _ _ => by omega)).congr Iff.rfl ?_
  simp only [last]
  congr 1
  funext p
  split
  · rename_i covered
    rw [column covered.2.1]
  · rfl

/-! ## Where the strips come -/

/-- The columns of the three strips, the gap between them and what the new image is wider. -/
structure Columns where
  leftColStart : Nat
  leftColEnd : Nat
  midColStart : Nat
  midColEnd : Nat
  rightColStart : Nat
  rightColEnd : Nat
  gap : Nat
  spare : Nat

def Columns.adjustMidX (c : Columns) : Nat := c.leftColEnd - c.leftColStart - c.midColStart + c.gap

def Columns.adjustRightX (c : Columns) : Nat := c.adjustMidX + c.midColEnd - c.rightColStart + c.gap

def Columns.width (c : Columns) : Nat :=
  c.leftColEnd + c.midColEnd + c.rightColEnd - c.leftColStart - c.midColStart - c.rightColStart +
    c.spare

def Columns.pasteLeft (c : Columns) (halcon : Halcon I R) (image concat : I) : Option I :=
  paste halcon image c.leftColStart c.leftColEnd (· - c.leftColStart) concat

def Columns.pasteMid (c : Columns) (halcon : Halcon I R) (image concat : I) : Option I :=
  paste halcon image c.midColStart c.midColEnd (· + c.adjustMidX) concat

def Columns.pasteRight (c : Columns) (halcon : Halcon I R) (image concat : I) : Option I :=
  paste halcon image c.rightColStart c.rightColEnd (· + c.adjustRightX) concat

/-- The strips are not empty and stay inside the new image. -/
structure Columns.Fits (c : Columns) : Prop where
  left_order : c.leftColStart ≤ c.leftColEnd
  mid_order : c.midColStart ≤ c.midColEnd
  right_order : c.rightColStart ≤ c.rightColEnd
  left_inside : c.leftColEnd - c.leftColStart < c.width
  mid_inside : c.midColEnd + c.adjustMidX < c.width
  right_inside : c.rightColEnd + c.adjustRightX < c.width

/-- What the strips show on a background: where two of them meet, the later one. -/
def Columns.montage (c : Columns) (value : Nat) (mid right : Prop) [Decidable mid] [Decidable right]
    (images : Nat → Image) : Image where
  width := c.width
  height := hvHeight
  gray p :=
    if right ∧ p.1 < hvHeight ∧ c.rightColStart + c.adjustRightX ≤ p.2 ∧
        p.2 ≤ c.rightColEnd + c.adjustRightX then (images 2).gray (p.1, p.2 - c.adjustRightX)
    else if mid ∧ p.1 < hvHeight ∧ c.midColStart + c.adjustMidX ≤ p.2 ∧
        p.2 ≤ c.midColEnd + c.adjustMidX then (images 1).gray (p.1, p.2 - c.adjustMidX)
    else if p.1 < hvHeight ∧ p.2 ≤ c.leftColEnd - c.leftColStart then
      (images 0).gray (p.1, p.2 + c.leftColStart)
    else value

/-- The left strip on a new image, and the others as far as they are there, each behind a call that has to
return. -/
def Columns.strips (c : Columns) (halcon : Halcon I R) (new : I) (mid right : Prop) [Decidable mid]
    [Decidable right] (midWritten rightWritten : Option Unit) (images : Nat → I) : Option I :=
  c.pasteLeft halcon (images 0) new >>= fun concat =>
    (if mid then midWritten >>= fun _ => c.pasteMid halcon (images 1) concat else some concat) >>=
      fun concat =>
        if right then rightWritten >>= fun _ => c.pasteRight halcon (images 2) concat else some concat

theorem Columns.yields_strips {c : Columns} (fits : c.Fits) (documented : halcon.Documented view)
    {value : Nat} {new : I} (plain : (view new).Shows ⟨c.width, hvHeight, fun _ => value⟩)
    (mid right : Prop) [Decidable mid] [Decidable right] (midWritten rightWritten : Option Unit)
    (images : Nat → I) :
    Yields view (c.strips halcon new mid right midWritten rightWritten images)
      ((view (images 0)).Covers c.leftColEnd ∧
        (mid → midWritten.isSome = true ∧ (view (images 1)).Covers c.midColEnd) ∧
        (right → rightWritten.isSome = true ∧ (view (images 2)).Covers c.rightColEnd))
      (c.montage value mid right fun place => view (images place)) := by
  have left : Yields view (c.pasteLeft halcon (images 0) new) _ _ :=
    yields_paste documented 0 plain fits.left_order rfl ((Nat.zero_add _).symm ▸ fits.left_inside)
      (fun _ _ _ => (Nat.zero_add _).symm)
  have strips := left.bind fun concat shows =>
    (Yields.ite mid shows (Yields.after midWritten (show Yields view (c.pasteMid halcon (images 1) concat) _ _
      from yields_paste_add documented shows fits.mid_order rfl fits.mid_inside))).bind fun concat shows =>
        Yields.ite right shows (Yields.after rightWritten (show Yields view
          (c.pasteRight halcon (images 2) concat) _ _
          from yields_paste_add documented shows fits.right_order rfl fits.right_inside))
  refine strips.congr Iff.rfl ?_
  simp only [Columns.montage, Image.regray, Nat.zero_add, Nat.sub_zero, Nat.zero_le, true_and, ite_and]

end Operators

/-! ## Operators as they are assumed -/

/-- The points of a rectangle, row by row. -/
def rectangle (row1 column1 row2 column2 : Nat) : List (Nat × Nat) :=
  (List.range' row1 (row2 + 1 - row1)).flatMap fun row =>
    (List.range' column1 (column2 + 1 - column1)).map fun column => (row, column)

theorem mem_rectangle {row1 column1 row2 column2 : Nat} {p : Nat × Nat} :
    p ∈ rectangle row1 column1 row2 column2 ↔
      (row1 ≤ p.1 ∧ p.1 ≤ row2) ∧ column1 ≤ p.2 ∧ p.2 ≤ column2 := by
  obtain ⟨row, column⟩ := p
  simp only [rectangle, List.mem_flatMap, List.mem_map, List.mem_range'_1, Prod.mk.injEq]
  constructor
  · rintro ⟨r, rows, c, columns, rfl, rfl⟩
    omega
  · rintro ⟨rows, columns⟩
    exact ⟨row, by omega, column, by omega, rfl, rfl⟩

/-- An example of operators, on images that are what is seen of them; files can be written as `writable`
says. -/
def sampleHalcon (writable : String → Bool) : Halcon Image (List (Nat × Nat)) where
  writeImage name _ := if writable name then some () else none
  genImageConst width height := some ⟨width, height, fun _ => 0⟩
  threshold image low high := some ((rectangle 0 0 (image.height - 1) (image.width - 1)).filter fun p =>
    low ≤ image.gray p ∧ image.gray p ≤ high)
  regionToBin region inside outside width height :=
    some ⟨width, height, fun p => if region.contains p then inside else outside⟩
  genRectangle1 row1 column1 row2 column2 := some (rectangle row1 column1 row2 column2)
  getRegionPoints := some
  getGrayval image points :=
    if points.all fun p => decide (image.Inside p) then some (points.map image.gray) else none
  setGrayval image points values :=
    if points.all fun p => decide (image.Inside p) then
      some (image.regray (paint image.gray (points.zip values)))
    else none

theorem sampleHalcon_documented (writable : String → Bool) :
    (sampleHalcon writable).Documented fun image => image where
  genImageConst width height := ⟨_, rfl, rfl, rfl, fun _ _ => rfl⟩
  threshold image low high := ⟨_, rfl⟩
  regionToBin region value width height := ⟨_, rfl, rfl, rfl, fun p _ => ite_self value⟩
  rectangle row1 column1 row2 column2 _ _ := ⟨_, _, rfl, rfl, fun _ => mem_rectangle⟩
  getGrayval image points inside := if_pos (by simpa using inside)
  getGrayval_outside image points outside := if_neg (by simpa using outside)
  setGrayval image points values _ inside :=
    ⟨_, if_pos (by simpa using inside), rfl, rfl, fun _ _ => rfl⟩

/-! ## EarRollingBaslerCamera -/

section Standard

variable {I R : Type}

def columns : Columns where
  leftColStart := 0
  leftColEnd := 1700
  midColStart := 100
  midColEnd := 1800
  rightColStart := 0
  rightColEnd := 1400
  gap := 5
  spare := 3 + 10

/-- `imageConcat`, on the images at its places.  With four cameras there is no right strip. -/
def imageConcat (halcon : Halcon I R) (cfg : Config) (id : Nat) (images : Nat → I) : Option I := do
  halcon.writeImage (cfg.imageStr id ++ "_1.jpg") (images 0)
  let imageConcat ← halcon.genImageConst columns.width hvHeight
  let regionBG ← halcon.threshold imageConcat 0 0
  let imageConcat ← halcon.regionToBin regionBG 255 255 columns.width hvHeight
  let imageConcat ← columns.pasteLeft halcon (images 0) imageConcat
  let imageConcat ← (if cfg.cameraNum > 1 then do
      halcon.writeImage (cfg.imageStr id ++ "_2.jpg") (images 1)
      columns.pasteMid halcon (images 1) imageConcat
    else some imageConcat)
  (if cfg.cameraNum = 3 then do
      halcon.writeImage (cfg.imageStr id ++ "_3.jpg") (images 2)
      columns.pasteRight halcon (images 2) imageConcat
    else some imageConcat)

/-- The three strips side by side, on white. -/
def montage (cameraNum : Nat) (images : Nat → Image) : Image where
  width := 4813
  height := 1080
  gray p :=
    if p.1 < 1080 ∧ p.2 ≤ 1700 then (images 0).gray p
    else if p.1 < 1080 ∧ 1705 ≤ p.2 ∧ p.2 ≤ 3405 ∧ 1 < cameraNum then
      (images 1).gray (p.1, p.2 - 1605)
    else if p.1 < 1080 ∧ 3410 ≤ p.2 ∧ p.2 ≤ 4810 ∧ cameraNum = 3 then
      (images 2).gray (p.1, p.2 - 3410)
    else 255

theorem columns_fits : columns.Fits := by constructor <;> decide

theorem columns_montage (cameraNum : Nat) (images : Nat → Image) :
    columns.montage 255 (cameraNum > 1) (cameraNum = 3) images = montage cameraNum images := by
  simp only [Columns.montage, montage, Image.mk.injEq]
  refine ⟨rfl, rfl, funext fun p => ?_⟩
  have rows : hvHeight = 1080 := rfl
  have left : columns.leftColStart = 0 ∧ columns.leftColEnd = 1700 := ⟨rfl, rfl⟩
  have mid : columns.midColStart = 100 ∧ columns.midColEnd = 1800 ∧ columns.adjustMidX = 1605 :=
    ⟨rfl, rfl, rfl⟩
  have right : columns.rightColStart = 0 ∧ columns.rightColEnd = 1400 ∧
      columns.adjustRightX = 3410 := ⟨rfl, rfl, rfl⟩
  simp only [rows, left, mid, right]
  -- the strips do not meet, so that their order does not matter
  obtain left | mid | right : p.2 ≤ 1700 ∨ (1700 < p.2 ∧ p.2 ≤ 3405) ∨ 3405 < p.2 := by omega
  · rw [if_neg (by omega), if_neg (by omega)]
    by_cases row : p.1 < 1080
    · rw [if_pos ⟨row, left⟩, if_pos ⟨row, left⟩]
      rfl
    · rw [if_neg (by omega), if_neg (by omega), if_neg (by omega), if_neg (by omega)]
  · by_cases inside : cameraNum > 1 ∧ p.1 < 1080 ∧ 1705 ≤ p.2
    · rw [if_neg (by omega), if_pos (by omega), if_neg (by omega), if_pos (by omega)]
    · rw [if_neg (by omega), if_neg (by omega), if_neg (by omega), if_neg (by omega),
        if_neg (by omega), if_neg (by omega)]
  · by_cases inside : cameraNum = 3 ∧ p.1 < 1080 ∧ 3410 ≤ p.2 ∧ p.2 ≤ 4810
    · rw [if_pos (by omega), if_neg (by omega), if_neg (by omega), if_pos (by omega)]
    · rw [if_neg (by omega), if_neg (by omega), if_neg (by omega), if_neg (by omega),
        if_neg (by omega), if_neg (by omega)]

/-- Images of 1920 columns and 1080 rows that show the number of their place. -/
def placeImage (place : Nat) : Image := ⟨1920, 1080, fun _ => place⟩

end Standard

/-! ## EarRollingBaslerCameraMsa -/

namespace Interval

section Msa

variable {I R : Type}

def columns : Columns where
  leftColStart := 540
  leftColEnd := 1700
  midColStart := 100
  midColEnd := 1800
  rightColStart := 180
  rightColEnd := 1300
  gap := 0
  spare := 3

/-- `"d:/grabs/trigger_concat_" + Int2Str(g_id)` -/
def imageStr (int2Str : Nat → String) (id : Nat) : String := "d:/grabs/trigger_concat_" ++ int2Str id

/-- `imageConcat`, on the images at its places.  The left and the middle image are always read, both before
the first strip is set; the new image is black. -/
def imageConcat (halcon : Halcon I R) (int2Str : Nat → String) (id cameraNum : Nat) (images : Nat → I) :
    Option I := do
  halcon.writeImage (imageStr int2Str id ++ "_1.jpg") (images 0)
  halcon.writeImage (imageStr int2Str id ++ "_2.jpg") (images 1)
  let imageConcat ← halcon.genImageConst columns.width hvHeight
  let regionLeft ← halcon.genRectangle1 0 columns.leftColStart (hvHeight - 1) columns.leftColEnd
  let regionMid ← halcon.genRectangle1 0 columns.midColStart (hvHeight - 1) columns.midColEnd
  let leftPoints ← halcon.getRegionPoints regionLeft
  let midPoints ← halcon.getRegionPoints regionMid
  let leftGrayval ← halcon.getGrayval (images 0) leftPoints
  let midGrayval ← halcon.getGrayval (images 1) midPoints
  let imageConcat ← halcon.setGrayval imageConcat
    (leftPoints.map fun p => (p.1, p.2 - columns.leftColStart)) leftGrayval
  let imageConcat ← halcon.setGrayval imageConcat
    (midPoints.map fun p => (p.1, p.2 + columns.adjustMidX)) midGrayval
  (if cameraNum = 3 then do
      halcon.writeImage (imageStr int2Str id ++ "_3.jpg") (images 2)
      columns.pasteRight halcon (images 2) imageConcat
    else some imageConcat)

/-- The strips without a gap: the left one without its last column and, before a right one, the middle
one without its last column. -/
def montage (cameraNum : Nat) (images : Nat → Image) : Image where
  width := 3983
  height := 1080
  gray p :=
    if 1080 ≤ p.1 then 0
    else if p.2 < 1160 then (images 0).gray (p.1, p.2 + 540)
    else if p.2 < 2860 ∨ p.2 = 2860 ∧ cameraNum ≠ 3 then (images 1).gray (p.1, p.2 - 1060)
    else if p.2 ≤ 3980 ∧ cameraNum = 3 then (images 2).gray (p.1, p.2 - 2680)
    else 0

theorem columns_fits : columns.Fits := by constructor <;> decide

theorem columns_montage (cameraNum : Nat) (images : Nat → Image) :
    columns.montage 0 True (cameraNum = 3) images = montage cameraNum images := by
  simp only [Columns.montage, montage, Image.mk.injEq]
  refine ⟨rfl, rfl, funext fun p => ?_⟩
  have rows : hvHeight = 1080 := rfl
  have left : columns.leftColStart = 540 ∧ columns.leftColEnd = 1700 := ⟨rfl, rfl⟩
  have mid : columns.midColStart = 100 ∧ columns.midColEnd = 1800 ∧ columns.adjustMidX = 1060 :=
    ⟨rfl, rfl, rfl⟩
  have right : columns.rightColStart = 180 ∧ columns.rightColEnd = 1300 ∧
      columns.adjustRightX = 2680 := ⟨rfl, rfl, rfl⟩
  simp only [rows, left, mid, right, true_and]
  by_cases row : 1080 ≤ p.1
  · rw [if_pos row, if_neg (by omega), if_neg (by omega), if_neg (by omega)]
  rw [if_neg row]
  obtain left | mid | right : p.2 < 1160 ∨ (1160 ≤ p.2 ∧ p.2 < 2860) ∨ 2860 ≤ p.2 := by omega
  · rw [if_neg (by omega), if_neg (by omega), if_pos (by omega), if_pos left]
  · rw [if_neg (by omega), if_pos (by omega), if_neg (by omega), if_pos (by omega)]
  · rw [if_neg (by omega : ¬ p.2 < 1160)]
    by_cases three : cameraNum = 3
    · rw [if_neg (by omega : ¬ (p.2 < 2860 ∨ p.2 = 2860 ∧ cameraNum ≠ 3))]
      by_cases inside : p.2 ≤ 3980
      · rw [if_pos (by omega), if_pos ⟨inside, three⟩]
      · rw [if_neg (by omega), if_neg (by omega), if_neg (by omega), if_neg (by omega)]
    · rw [if_neg (by omega), if_neg (by omega : ¬ (p.2 ≤ 3980 ∧ cameraNum = 3))]
      by_cases seam : p.2 = 2860
      · rw [if_pos (by omega), if_pos (by omega)]
      · rw [if_neg (by omega), if_neg (by omega), if_neg (by omega)]

/-- The `WriteImage` calls of a round return. -/
def Written (halcon : Halcon I R) (int2Str : Nat → String) (id cameraNum : Nat) (images : Nat → I) : Prop :=
  (halcon.writeImage (imageStr int2Str id ++ "_1.jpg") (images 0)).isSome = true ∧
    (halcon.writeImage (imageStr int2Str id ++ "_2.jpg") (images 1)).isSome = true ∧
    (cameraNum = 3 → (halcon.writeImage (imageStr int2Str id ++ "_3.jpg") (images 2)).isSome = true)

/-- Reading twice and then setting twice is reading and setting, twice. -/
theorem bind_get_set {α β γ : Type} (get₁ get₂ : Option α) (set₁ : α → Option β) (set₂ : β → α → Option β)
    (rest : β → Option γ) :
    (get₁.bind fun a => get₂.bind fun b => (set₁ a).bind fun s => (set₂ s b).bind rest) =
      (get₁.bind set₁).bind fun s => (get₂.bind (set₂ s)).bind rest := by
  cases get₁ with
  | none => rfl
  | some a =>
      cases get₂ with
      | none => simp
      | some b => rfl

variable {halcon : Halcon I R} {view : I → Image}

/-- The same strips as in the other program, with the two first images written at the beginning. -/
theorem imageConcat_eq_strips (documented : halcon.Documented view) (int2Str : Nat → String)
    (id cameraNum : Nat) (images : Nat → I) :
    ∃ black, (view black).Shows ⟨columns.width, hvHeight, fun _ => 0⟩ ∧
      imageConcat halcon int2Str id cameraNum images =
        halcon.writeImage (imageStr int2Str id ++ "_1.jpg") (images 0) >>= fun _ =>
          halcon.writeImage (imageStr int2Str id ++ "_2.jpg") (images 1) >>= fun _ =>
            columns.strips halcon black True (cameraNum = 3) (some ())
              (halcon.writeImage (imageStr int2Str id ++ "_3.jpg") (images 2)) images := by
  obtain ⟨black, generated, plain⟩ := documented.genImageConst columns.width hvHeight
  obtain ⟨regionLeft, leftPoints, left, leftListed, -⟩ := documented.rectangle 0 columns.leftColStart
    (hvHeight - 1) columns.leftColEnd (Nat.zero_le _) columns_fits.left_order
  obtain ⟨regionMid, midPoints, mid, midListed, -⟩ := documented.rectangle 0 columns.midColStart
    (hvHeight - 1) columns.midColEnd (Nat.zero_le _) columns_fits.mid_order
  refine ⟨black, plain, ?_⟩
  simp only [imageConcat, generated, left, mid, leftListed, midListed, Option.bind_eq_bind,
    Option.bind_some, bind_get_set, Columns.strips, Columns.pasteLeft, Columns.pasteMid, paste, if_true]

theorem yields_imageConcat (documented : halcon.Documented view) (int2Str : Nat → String)
    (id cameraNum : Nat) (images : Nat → I) :
    Yields view (imageConcat halcon int2Str id cameraNum images)
      (Written halcon int2Str id cameraNum images ∧ (view (images 0)).Covers 1700 ∧
        (view (images 1)).Covers 1800 ∧ (cameraNum = 3 → (view (images 2)).Covers 1300))
      (montage cameraNum fun place => view (images place)) := by
  obtain ⟨black, plain, same⟩ := imageConcat_eq_strips documented int2Str id cameraNum images
  rw [same]
  refine (Yields.after _ (Yields.after _ (columns.yields_strips columns_fits documented plain True
    (cameraNum = 3) (some ()) _ images))).congr ?_ (columns_montage cameraNum _)
  simp only [Written, Option.isSome_some, true_and, forall_const]
  constructor
  · rintro ⟨first, second, left, mid, right⟩
    exact ⟨⟨first, second, fun three => (right three).1⟩, left, mid, fun three => (right three).2⟩
  · rintro ⟨⟨first, second, third⟩, left, mid, right⟩
    exact ⟨first, second, left, mid, fun three => ⟨third three, right three⟩⟩

/-! ## The pictures of a run -/

variable (halcon) (int2Str : Nat → String) (cfg : Setup) (shot : Frame → I)

/-- `imageConcat` copies its images, and then it returns or raises as its operators do for them. -/
def Stitches (s : State) : Action → Prop
  | .concat fine =>
      match s.concat with
      | .copy _ => fine = true
      | .stitch => ∀ frame : Nat → Frame,
          (∀ place < cfg.cameraNum, s.copies place = some (frame place)) →
            fine = (imageConcat halcon int2Str s.id cfg.cameraNum fun place => shot (frame place)).isSome
      | _ => True
  | _ => True

/-- The rounds in which `imageConcat` has returned are those in which its operators return for the frames
announced. -/
def Returned (s : State) : Prop :=
  ∀ k round, s.rounds[k]? = some round → ∀ frame : Nat → Frame,
    (∀ place < cfg.cameraNum, (s.announced (cfg.concatLocation place))[k]? = some (frame place)) →
      round.frames.isSome =
        (imageConcat halcon int2Str (k + 1) cfg.cameraNum fun place => shot (frame place)).isSome

variable {halcon int2Str cfg shot} {s s' : State}

/-- More announced frames and no more rounds. -/
theorem Returned.grown (returned : Returned halcon int2Str cfg shot s) (taken : Taken cfg s)
    (rounds : s'.rounds = s.rounds) (longer : ∀ i, s.announced i <+: s'.announced i) :
    Returned halcon int2Str cfg shot s' := by
  intro k round found frame announced
  rw [rounds] at found
  refine returned k round found frame fun place used => ?_
  have early : k < (s.announced (cfg.concatLocation place)).length :=
    Nat.lt_of_lt_of_le (List.getElem?_eq_some_iff.1 found).1 (taken.length_le (cfg.concatLocation_lt used))
  obtain ⟨more, grown⟩ := longer (cfg.concatLocation place)
  rw [← announced place used, ← grown, List.getElem?_append_left early]

theorem imageConcatProc_announced (cfg : Setup) (s : State) (fine : Bool) :
    (imageConcatProc cfg s fine).announced = s.announced := by
  unfold imageConcatProc
  split <;> repeat' split
  all_goals rfl

/-- A round enters the record when its picture has been stitched, if the copies return. -/
theorem imageConcatProc_rounds (cfg : Setup) {fine : Bool} (copies : ∀ i, s.concat = .copy i → fine = true) :
    (imageConcatProc cfg s fine).rounds = s.rounds ∨ s.concat = .stitch ∧
      (imageConcatProc cfg s fine).rounds =
        s.rounds ++ [⟨s.id, if fine then some (cfg.stitchedFrames s.copies) else none⟩] := by
  cases pc : s.concat with
  | copy i =>
      left
      simp only [imageConcatProc, pc, copies i pc, if_true]
  | stitch =>
      refine .inr ⟨rfl, ?_⟩
      simp only [imageConcatProc, pc]
      cases fine <;> rfl
  | _ =>
      left
      simp only [imageConcatProc, pc]
      try split
      all_goals rfl

/-- The round that is stitched. -/
theorem Returned.stitched (returned : Returned halcon int2Str cfg shot s) (good : Slots s)
    (taken : Taken cfg s) {fine : Bool} (pc : s.concat = .stitch)
    (stitches : Stitches halcon int2Str cfg shot s (.concat fine))
    (announced : s'.announced = s.announced) (rounds : s'.rounds =
      s.rounds ++ [⟨s.id, if fine then some (cfg.stitchedFrames s.copies) else none⟩]) :
    Returned halcon int2Str cfg shot s' := by
  intro k round found frame shown
  rw [announced] at shown
  rw [rounds] at found
  obtain early | last : k < s.rounds.length ∨ k = s.rounds.length := by
    have bound := (List.getElem?_eq_some_iff.1 found).1
    rw [List.length_append, List.length_singleton] at bound
    omega
  · rw [List.getElem?_append_left early] at found
    exact returned k round found frame shown
  subst last
  rw [List.getElem?_concat_length] at found
  obtain rfl := Option.some.inj found
  have scan := taken.scanned
  simp only [Scanned, pc] at scan
  obtain ⟨all, copied⟩ := scan
  have number : s.id = s.rounds.length + 1 := by simpa [pc, ConcatPc.within] using taken.number
  -- what has been copied is the last frame announced, which is the one of this round
  have copies (place : Nat) (used : place < cfg.cameraNum) : s.copies place = some (frame place) := by
    have camera := cfg.concatLocation_lt used
    have length : (s.announced (cfg.concatLocation place)).length = s.rounds.length + 1 := by
      simpa [all _ camera] using taken.waiting _ camera (by rw [pc]; rfl)
    rw [copied place used, good.latest _ (all _ camera), List.getLast?_eq_getElem?, length]
    exact shown place used
  simp only [Stitches, pc] at stitches
  rw [← number, ← stitches frame copies]
  cases fine <;> rfl

theorem Returned.step {a : Action} (returned : Returned halcon int2Str cfg shot s)
    (before : Slots s ∧ Taken cfg s) (stitches : Stitches halcon int2Str cfg shot s a)
    (taken : step cfg s a = some s') : Returned halcon int2Str cfg shot s' := by
  cases a with
  | grab i elapsed answer =>
      simp only [Interval.step] at taken
      split at taken
      · obtain rfl := Option.some.inj taken
        have camera := intervalGrabProc_cases cfg before.1 i elapsed answer
        exact returned.grown before.2 camera.rounds_eq camera.announced_grows
      · cases taken
  | concat fine =>
      obtain rfl := Option.some.inj taken
      have announced := imageConcatProc_announced cfg s fine
      have copies : ∀ i, s.concat = .copy i → fine = true := by
        intro i pc
        simpa only [Stitches, pc] using stitches
      rcases imageConcatProc_rounds cfg copies with same | ⟨pc, recorded⟩
      · exact returned.grown before.2 same fun j => ⟨[], by rw [List.append_nil, announced]⟩
      · exact returned.stitched before.1 before.2 pc stitches announced recorded
  | main fine =>
      obtain rfl := Option.some.inj taken
      obtain ⟨_, _, _, same⟩ := cameraWorker_eq s fine
      rw [same]
      exact returned

end Msa

/-- Frames that show their camera and their number. -/
def numberedShot (f : Frame) : Image := ⟨1920, 1080, fun _ => 10 * f.camera + f.trigger⟩

theorem stitches_numbered (cfg : Setup) (int2Str : Nat → String) (s : State) {a : Action}
    (fine : a ≠ .concat false) :
    Stitches (sampleHalcon fun _ => true) int2Str cfg numberedShot s a := by
  cases a with
  | grab | main => trivial
  | concat flag =>
      obtain rfl : flag = true := by
        cases flag with
        | true => rfl
        | false => exact absurd rfl fine
      cases pc : s.concat with
      | stitch =>
          simp only [Stitches, pc]
          intro frame _
          have covers (f : Frame) {columnEnd : Nat} (inside : columnEnd < 1920) :
              (numberedShot f).Covers columnEnd := Image.covers_of_size ⟨rfl, rfl⟩ inside
          have yields := yields_imageConcat (sampleHalcon_documented fun _ => true) int2Str s.id
            cfg.cameraNum fun place => numberedShot (frame place)
          exact (yields.returns_iff.2 ⟨⟨rfl, rfl, fun _ => rfl⟩, covers _ (by decide),
            covers _ (by decide), fun _ => covers _ (by decide)⟩).symm
      | _ => simp only [Stitches, pc]

end Interval

end TizerVision.Rolling

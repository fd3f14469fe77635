import Mathlib.Algebra.Order.Field.Basic
import Mathlib.Data.List.Forall2
import Mathlib.Data.List.GetD
import Mathlib.Data.List.Rotate
import Mathlib.Data.List.SplitBy
import Mathlib.Tactic.NormNum
import Skatebot.Library.BinaryFloat
import Skatebot.Library.Sorting

/-!
# `Tofbf`, the filters of the lidar

A filter masks points that it takes for noise: it sets their distance and their
intensity to zero, from which the scan's beam becomes undefined.  Neither filter
moves a point or makes one up.  The filter of near points loses points in one
case: when all of them form a single group that closes the circle.
-/

namespace Skatebot

open Library

/-- `LDType`. -/
inductive LDType
  | noVersion
  | ld06
  | ld19
  | stl06p
  | stl26
  | stl27l
  deriving DecidableEq

/-- `PointData`, less the Cartesian coordinates, which nothing sets. -/
structure PointData (R : Type) where
  /-- In degrees. -/
  angle : R
  /-- In millimetres. -/
  distance : BitVec 16
  intensity : BitVec 8
  /-- In nanoseconds. -/
  stamp : BitVec 64
  deriving DecidableEq

/-- The point as a filter leaves it that takes it for noise. -/
def PointData.mask {R : Type} (point : PointData R) : PointData R :=
  { point with distance := 0, intensity := 0 }

/-- `FilterType`. -/
inductive FilterType
  | noFilter
  | nearFilter
  | noiseFilter
  deriving DecidableEq

/-- `Tofbf`. -/
structure Tofbf (R : Type) where
  filterType : FilterType
  intensityLow : Int
  intensitySingle : Int
  scanFrequency : Int
  currSpeed : R

namespace Tofbf

variable {R : Type}

/-! ## Masks -/

/-- The point is left as it is, or masked. -/
def KeptOrMasked (point left : PointData R) : Prop :=
  left = point ∨ left = point.mask

/-- The output has the points of the input, in any order, each left as it is or
masked. -/
def Masks (input output : List (PointData R)) : Prop :=
  ∃ points, points.Perm input ∧ List.Forall₂ KeptOrMasked points output

theorem keptOrMasked_refl (points : List (PointData R)) :
    List.Forall₂ KeptOrMasked points points :=
  List.forall₂_same.mpr fun _ _ => Or.inl rfl

theorem keptOrMasked_map (points : List (PointData R)) :
    List.Forall₂ KeptOrMasked points (points.map PointData.mask) := by
  rw [List.forall₂_map_right_iff]
  exact List.forall₂_same.mpr fun _ _ => Or.inr rfl

theorem Masks.length_eq
    {input output : List (PointData R)}
    (masks : Masks input output) :
    output.length = input.length := by
  obtain ⟨points, perm, each⟩ := masks
  exact each.length_eq.symm.trans perm.length_eq

theorem exists_of_mem_right
    {α β : Type}
    {relation : α → β → Prop}
    {points : List α}
    {output : List β}
    (each : List.Forall₂ relation points output)
    {left : β}
    (member : left ∈ output) :
    ∃ point ∈ points, relation point left := by
  induction each with
  | nil => exact absurd member List.not_mem_nil
  | cons kept rest inductionHypothesis =>
      rcases List.mem_cons.mp member with rfl | later
      · exact ⟨_, List.mem_cons_self, kept⟩
      · obtain ⟨point, origin, same⟩ := inductionHypothesis later
        exact ⟨point, List.mem_cons_of_mem _ origin, same⟩

theorem Masks.append
    {input output others left : List (PointData R)}
    (first : Masks input output)
    (second : Masks others left) :
    Masks (input ++ others) (output ++ left) := by
  obtain ⟨points, perm, each⟩ := first
  obtain ⟨more, permMore, eachMore⟩ := second
  exact ⟨points ++ more, perm.append permMore,
    List.rel_append each eachMore⟩

/-- Every point of the output comes from one of the input. -/
theorem Masks.origin
    {input output : List (PointData R)}
    (masks : Masks input output)
    {left : PointData R}
    (member : left ∈ output) :
    ∃ point ∈ input, KeptOrMasked point left := by
  obtain ⟨points, perm, each⟩ := masks
  obtain ⟨point, origin, kept⟩ :=
    exists_of_mem_right each member
  exact ⟨point, perm.mem_iff.mp origin, kept⟩

/-! ## The filters -/

variable [Field R] [LinearOrder R] [FloorRing R]

/-- `Tofbf::Tofbf`.  The thresholds are those of the filter of near points; the
constructor leaves them unset for the other filters, which do not read them. -/
def make (speed : Nat) (type : LDType) : Tofbf R where
  filterType :=
    match type with
    | .ld06 | .ld19 => .nearFilter
    | .stl06p | .stl26 | .stl27l => .noiseFilter
    | .noVersion => .noFilter
  intensityLow := 15
  intensitySingle := 220
  scanFrequency := 4500
  currSpeed := speed

/-- The distance as a number. -/
def distance (point : PointData R) : R := point.distance.toNat

/-- `group`, `item` and `last` in the loop of `Tofbf::NearFilter`. -/
structure Grouping (R : Type) where
  group : List (List (PointData R))
  item : List (PointData R)
  last : PointData R

/-- The distance to which a point's neighbour may differ from it. -/
def distanceLimit (last : PointData R) : R := double (distance last * double 0.03)

/-- One turn of the loop that groups the points. -/
def Grouping.next (angleDeltaUpLimit : R) (loop : Grouping R)
    (n : PointData R) : Grouping R :=
  let loop :=
    if |single (n.angle - loop.last.angle)| > angleDeltaUpLimit ∨
        |distance n - distance loop.last| > distanceLimit loop.last then
      if loop.item = [] then loop
      else { loop with group := loop.group ++ [loop.item], item := [] }
    else loop
  { loop with item := loop.item ++ [n], last := n }

/-- The loop that groups the points. -/
def grouping (angleDeltaUpLimit : R) (pending : List (PointData R)) :
    Grouping R :=
  pending.foldl (Grouping.next angleDeltaUpLimit) ⟨[], [], ⟨-10, 0, 0, 0⟩⟩

/-- The groups after the loop, the last item pushed back. -/
def Grouping.groups (loop : Grouping R) : List (List (PointData R)) :=
  if loop.item = [] then loop.group else loop.group ++ [loop.item]

/-- The first and the last point lie together around 0 degrees. -/
def Connected (angleDeltaUpLimit : R) (firstItem lastItem : PointData R) :
    Prop :=
  |single (single (firstItem.angle + 360.0) - lastItem.angle)| <
      angleDeltaUpLimit ∧
    |distance firstItem - distance lastItem| < distanceLimit lastItem

instance (angleDeltaUpLimit : R) (firstItem lastItem : PointData R) :
    Decidable (Connected angleDeltaUpLimit firstItem lastItem) :=
  inferInstanceAs (Decidable (_ ∧ _))

/-- The connection of 0 degree and 359 degree: the last group is put before the
first one and then erased, also where it is the first one itself.  The language
leaves open what inserting a vector's own points into it does; whatever becomes
of the group then, it is assumed to be one that can be erased. -/
def connect (angleDeltaUpLimit : R) (group : List (List (PointData R))) :
    List (List (PointData R)) :=
  match group with
  | [] => []
  | front :: rest =>
      let back := rest.getLastD front
      match front.head?, back.getLast? with
      | some firstItem, some lastItem =>
          if Connected angleDeltaUpLimit firstItem lastItem then
            ((back ++ front) :: rest).dropLast
          else front :: rest
      | _, _ => front :: rest

/-- The selection: what becomes of a group. -/
def select (tofbf : Tofbf R) (n : List (PointData R)) : List (PointData R) :=
  if n.length = 0 then []
  else if n.length > 15 then n
  else
    let c := (n.map fun m => m.intensity.toNat).sum
    if n.length < 3 ∧ (c / n.length : Nat) < tofbf.intensitySingle then
      n.map PointData.mask
    else
      let intensityAvg : R := double (c / n.length)
      if intensityAvg > tofbf.intensityLow then n
      else n.map PointData.mask

/-- The point is within five metres. -/
def near (n : PointData R) : Bool := n.distance.toNat < 5000

/-- `angle_delta_up_limit`. -/
def angleDeltaUpLimit (tofbf : Tofbf R) : R :=
  double (double (tofbf.currSpeed / tofbf.scanFrequency) * 2.0)

/-- The points that are grouped, sorted by their angles. -/
def pending (sorting : Sorting (PointData.angle (R := R)))
    (tmp : List (PointData R)) : List (PointData R) :=
  sorting.sort (tmp.filter near)

/-- `Tofbf::NearFilter`. -/
def nearFilter (tofbf : Tofbf R) (sorting : Sorting (PointData.angle (R := R)))
    (tmp : List (PointData R)) : List (PointData R) :=
  let normal := tmp.filter fun n => !near n
  let group :=
    (grouping tofbf.angleDeltaUpLimit (pending sorting tmp)).groups
  normal ++ (connect tofbf.angleDeltaUpLimit group).flatMap tofbf.select

/-- The point is nearer, or farther, than both its neighbours by more than a
margin. -/
def Opposite (margin : Nat) (n lastData nextData : PointData R) : Prop :=
  (n.distance.toNat + margin < lastData.distance.toNat ∧
      n.distance.toNat + margin < nextData.distance.toNat) ∨
    (n.distance.toNat > lastData.distance.toNat + margin ∧
      n.distance.toNat > nextData.distance.toNat + margin)

/-- The point is away from each of its neighbours by more than 30. -/
def Apart (n lastData nextData : PointData R) : Prop :=
  (n.distance.toNat + 30 < lastData.distance.toNat ∨
      n.distance.toNat > lastData.distance.toNat + 30) ∧
    (n.distance.toNat + 30 < nextData.distance.toNat ∨
      n.distance.toNat > nextData.distance.toNat + 30)

instance (margin : Nat) (n lastData nextData : PointData R) :
    Decidable (Opposite margin n lastData nextData) :=
  inferInstanceAs (Decidable (_ ∨ _))

instance (n lastData nextData : PointData R) :
    Decidable (Apart n lastData nextData) :=
  inferInstanceAs (Decidable (_ ∧ _))

/-- Whether one turn of the loop in `Tofbf::NoiseFilter` masks its point. -/
def noise (n lastData nextData : PointData R) : Bool :=
  let distance := n.distance.toNat
  let intensity := n.intensity.toNat
  -- Remove points with the opposite trend within 500mm.
  (distance < 500 &&
    if Opposite 10 n lastData nextData then intensity < 60
    else if Opposite 7 n lastData nextData then intensity < 45
    else if Opposite 5 n lastData nextData then intensity < 30
    else false) ||
  -- Remove points with very low intensity within 5m.
  (distance < 5000 &&
    ((if distance < 200 then intensity < 25 else intensity < 10) ||
      (Apart n lastData nextData &&
        ((distance < 2000 && intensity < 30) || intensity < 20))))

/-- `Tofbf::NoiseFilter`. -/
def noiseFilter (tmp : List (PointData R)) : List (PointData R) :=
  tmp.zipIdx.map fun (n, count) =>
    let lastData :=
      if count = 0 then tmp.getD (tmp.length - 1) n
      else tmp.getD (count - 1) n
    let nextData :=
      if count = tmp.length - 1 then tmp.getD 0 n
      else tmp.getD (count + 1) n
    if noise n lastData nextData then n.mask else n

/-- `Tofbf::Filter`. -/
def filter (tofbf : Tofbf R) (sorting : Sorting (PointData.angle (R := R)))
    (tmp : List (PointData R)) : List (PointData R) :=
  match tofbf.filterType with
  | .nearFilter => tofbf.nearFilter sorting tmp
  | .noiseFilter => noiseFilter tmp
  | .noFilter => tmp

/-! ## The groups of near points -/

/-- The loop leaves two points in one group. -/
def adjacent (angleDeltaUpLimit : R) (last n : PointData R) : Bool :=
  |single (n.angle - last.angle)| ≤ angleDeltaUpLimit ∧
    |distance n - distance last| ≤ distanceLimit last

/-- The loop goes on as the splitting of a list does. -/
theorem foldl_groups
    (angleDeltaUpLimit : R)
    (pending : List (PointData R))
    (group : List (List (PointData R)))
    (item : List (PointData R))
    (last : PointData R) :
    (pending.foldl (Grouping.next angleDeltaUpLimit)
        ⟨group.reverse, (last :: item).reverse, last⟩).groups =
      List.splitBy.loop (adjacent angleDeltaUpLimit) pending last item
        group := by
  induction pending generalizing group item last with
  | nil => simp [Grouping.groups, List.splitBy.loop]
  | cons n pending inductionHypothesis =>
      rw [List.foldl_cons, List.splitBy.loop]
      by_cases together : adjacent angleDeltaUpLimit last n
      · have here := of_decide_eq_true together
        have next : Grouping.next angleDeltaUpLimit
            ⟨group.reverse, (last :: item).reverse, last⟩ n =
              ⟨group.reverse, (n :: last :: item).reverse, n⟩ := by
          simp [Grouping.next, not_lt.mpr here.1, not_lt.mpr here.2]
        rw [together, next]
        exact inductionHypothesis group (last :: item) n
      · have here : |single (n.angle - last.angle)| > angleDeltaUpLimit ∨
            |distance n - distance last| > distanceLimit last := by
          rw [gt_iff_lt, gt_iff_lt, ← not_le, ← not_le, ← not_and_or]
          exact fun both => together (decide_eq_true both)
        have next : Grouping.next angleDeltaUpLimit
            ⟨group.reverse, (last :: item).reverse, last⟩ n =
              ⟨((last :: item).reverse :: group).reverse, [n].reverse,
                n⟩ := by
          simp [Grouping.next, here]
        rw [Bool.not_eq_true] at together
        rw [together, next]
        exact inductionHypothesis ((last :: item).reverse :: group) [] n

/-- The groups are the longest runs of points that are adjacent to each
other. -/
theorem groups_eq
    (angleDeltaUpLimit : R) (pending : List (PointData R)) :
    (grouping angleDeltaUpLimit pending).groups =
      pending.splitBy (adjacent angleDeltaUpLimit) := by
  cases pending with
  | nil => rfl
  | cons n pending =>
      have first : Grouping.next angleDeltaUpLimit
          ⟨[], [], ⟨-10, 0, 0, 0⟩⟩ n = ⟨[], [n], n⟩ := by
        simp [Grouping.next]
      rw [grouping, List.foldl_cons, first]
      exact foldl_groups angleDeltaUpLimit pending [] [] n

/-! ## What the filter of near points does -/

theorem select_keptOrMasked
    (tofbf : Tofbf R) (n : List (PointData R)) :
    List.Forall₂ KeptOrMasked n (tofbf.select n) := by
  unfold select
  split
  next empty =>
    rw [List.eq_nil_of_length_eq_zero empty]
    exact .nil
  next =>
    split
    next => exact keptOrMasked_refl n
    next =>
      dsimp only
      split
      next => exact keptOrMasked_map n
      next =>
        split
        next => exact keptOrMasked_refl n
        next => exact keptOrMasked_map n

theorem flatMap_select_keptOrMasked
    (tofbf : Tofbf R) (group : List (List (PointData R))) :
    List.Forall₂ KeptOrMasked group.flatten (group.flatMap tofbf.select) := by
  induction group with
  | nil => exact .nil
  | cons n group inductionHypothesis =>
      rw [List.flatten_cons, List.flatMap_cons]
      exact List.rel_append (tofbf.select_keptOrMasked n) inductionHypothesis

/-- The connection keeps the points of two groups or more. -/
theorem connect_perm
    (angleDeltaUpLimit : R)
    (front : List (PointData R))
    {rest : List (List (PointData R))}
    (several : rest ≠ []) :
    (connect angleDeltaUpLimit (front :: rest)).flatten.Perm
      (front :: rest).flatten := by
  obtain ⟨others, back, rfl⟩ : ∃ others back, rest = others ++ [back] :=
    ⟨_, _, (List.dropLast_append_getLast several).symm⟩
  unfold connect
  dsimp only
  split
  next =>
    split
    next =>
      rw [List.getLastD_concat, ← List.cons_append, List.dropLast_concat]
      simp only [List.flatten_cons, List.flatten_append, List.flatten_nil,
        List.append_nil, List.append_assoc]
      rw [← List.append_assoc front]
      exact List.perm_append_comm
    next => exact .refl _
  next => exact .refl _

/-- The points form a single group, whose ends are connected. -/
def ClosedCircle (angleDeltaUpLimit : R) (pending : List (PointData R)) :
    Prop :=
  pending.IsChain (fun last n => adjacent angleDeltaUpLimit last n) ∧
    ∃ firstItem lastItem, pending.head? = some firstItem ∧
      pending.getLast? = some lastItem ∧
      Connected angleDeltaUpLimit firstItem lastItem

/-- A closed circle is erased. -/
theorem connect_closedCircle
    {angleDeltaUpLimit : R}
    {pending : List (PointData R)}
    (closed : ClosedCircle angleDeltaUpLimit pending) :
    connect angleDeltaUpLimit
      (grouping angleDeltaUpLimit pending).groups = [] := by
  obtain ⟨chain, firstItem, lastItem, first, last, connected⟩ := closed
  have nonempty : pending ≠ [] := by
    rintro rfl
    cases first
  rw [groups_eq, List.splitBy_of_isChain nonempty chain]
  simp [connect, first, last, connected]

/-- Where the points close no circle, the connection keeps all of them. -/
theorem connect_groups_perm
    {angleDeltaUpLimit : R}
    {pending : List (PointData R)}
    (opened : ¬ClosedCircle angleDeltaUpLimit pending) :
    (connect angleDeltaUpLimit
      (grouping angleDeltaUpLimit pending).groups).flatten.Perm pending := by
  have flattened :
      (grouping angleDeltaUpLimit pending).groups.flatten = pending := by
    rw [groups_eq, List.flatten_splitBy]
  cases grouped : (grouping angleDeltaUpLimit pending).groups with
  | nil =>
      rw [grouped] at flattened
      rw [← flattened]
      exact .refl _
  | cons front rest =>
      rw [grouped] at flattened
      by_cases several : rest = []
      · subst several
        rw [List.flatten_cons, List.flatten_nil, List.append_nil] at flattened
        subst flattened
        have chain := List.isChain_of_mem_splitBy
          (r := adjacent angleDeltaUpLimit) (l := front) (m := front)
          (by rw [← groups_eq, grouped]; exact List.mem_singleton_self _)
        unfold connect
        dsimp only
        split
        next firstItem lastItem first last =>
          rw [if_neg fun connected =>
            opened ⟨chain, firstItem, lastItem, first, last, connected⟩]
          simp
        next => simp
      · have kept := connect_perm angleDeltaUpLimit front several
        rwa [flattened] at kept

/-- Of near points that close a circle the filter of near points returns
none. -/
theorem nearFilter_closedCircle
    (tofbf : Tofbf R)
    (sorting : Sorting (PointData.angle (R := R)))
    {tmp : List (PointData R)}
    (closed : ClosedCircle tofbf.angleDeltaUpLimit (pending sorting tmp)) :
    tofbf.nearFilter sorting tmp = tmp.filter fun n => !near n := by
  unfold nearFilter
  dsimp only
  rw [connect_closedCircle closed, List.flatMap_nil, List.append_nil]

/-- Otherwise it returns every point, as it is or masked. -/
theorem masks_nearFilter
    (tofbf : Tofbf R)
    (sorting : Sorting (PointData.angle (R := R)))
    {tmp : List (PointData R)}
    (opened : ¬ClosedCircle tofbf.angleDeltaUpLimit (pending sorting tmp)) :
    Masks tmp (tofbf.nearFilter sorting tmp) := by
  have far : Masks (tmp.filter fun n => !near n)
      (tmp.filter fun n => !near n) := ⟨_, .refl _, keptOrMasked_refl _⟩
  have grouped : Masks (tmp.filter near)
      ((connect tofbf.angleDeltaUpLimit
        (grouping tofbf.angleDeltaUpLimit
          (pending sorting tmp)).groups).flatMap tofbf.select) :=
    ⟨_, (connect_groups_perm opened).trans (sorting.perm _),
      tofbf.flatMap_select_keptOrMasked _⟩
  obtain ⟨points, perm, each⟩ := far.append grouped
  refine ⟨points, perm.trans ?_, each⟩
  exact List.perm_append_comm.trans (List.filter_append_perm near tmp)

/-- The filter of near points returns every point, as it is or masked, unless
the near points close a circle: then it returns none of these. -/
theorem nearFilter_masks_iff
    (tofbf : Tofbf R)
    (sorting : Sorting (PointData.angle (R := R)))
    (tmp : List (PointData R)) :
    (Masks tmp (tofbf.nearFilter sorting tmp) ↔
        ¬ClosedCircle tofbf.angleDeltaUpLimit (pending sorting tmp)) ∧
      (ClosedCircle tofbf.angleDeltaUpLimit (pending sorting tmp) →
        tofbf.nearFilter sorting tmp = tmp.filter fun n => !near n) := by
  refine ⟨⟨?_, tofbf.masks_nearFilter sorting⟩,
    tofbf.nearFilter_closedCircle sorting⟩
  intro masks closed
  have all := masks.length_eq
  rw [tofbf.nearFilter_closedCircle sorting closed,
    List.length_filter_eq_length_iff] at all
  obtain ⟨-, firstItem, -, first, -⟩ := closed
  have member := List.mem_of_mem_head? first
  rw [pending, Sorting.mem_sort, List.mem_filter] at member
  simpa [member.2] using all firstItem member.1

/-! ## What the filter of noise does -/

omit [Field R] [LinearOrder R] [FloorRing R] in
@[simp] theorem length_noiseFilter (tmp : List (PointData R)) :
    (noiseFilter tmp).length = tmp.length := by
  simp [noiseFilter]

omit [Field R] [LinearOrder R] [FloorRing R] in
/-- The neighbours of a point are those of the circle that the points form. -/
theorem getElem_noiseFilter
    (tmp : List (PointData R))
    (i : Nat)
    (within : i < tmp.length)
    (inside : i < (noiseFilter tmp).length)
    (last : (i + tmp.length - 1) % tmp.length < tmp.length)
    (next : (i + 1) % tmp.length < tmp.length) :
    (noiseFilter tmp)[i] =
      if noise tmp[i] tmp[(i + tmp.length - 1) % tmp.length]
          tmp[(i + 1) % tmp.length]
        then tmp[i].mask else tmp[i] := by
  have lastIndex : (i + tmp.length - 1) % tmp.length =
      if i = 0 then tmp.length - 1 else i - 1 := by
    split
    next first =>
      rw [first, Nat.zero_add]
      exact Nat.mod_eq_of_lt (by omega)
    next =>
      rw [show i + tmp.length - 1 = i - 1 + tmp.length by omega,
        Nat.add_mod_right]
      exact Nat.mod_eq_of_lt (by omega)
  have nextIndex : (i + 1) % tmp.length =
      if i = tmp.length - 1 then 0 else i + 1 := by
    split
    next last =>
      rw [show i + 1 = tmp.length by omega, Nat.mod_self]
    next => exact Nat.mod_eq_of_lt (by omega)
  have lastData : (if i = 0 then tmp.getD (tmp.length - 1) tmp[i]
      else tmp.getD (i - 1) tmp[i]) =
        tmp[(i + tmp.length - 1) % tmp.length] := by
    simp only [lastIndex]
    split <;> exact List.getD_eq_getElem _ _ (by omega)
  have nextData : (if i = tmp.length - 1 then tmp.getD 0 tmp[i]
      else tmp.getD (i + 1) tmp[i]) = tmp[(i + 1) % tmp.length] := by
    simp only [nextIndex]
    split <;> exact List.getD_eq_getElem _ _ (by omega)
  simp only [noiseFilter, List.getElem_map, List.getElem_zipIdx, Nat.zero_add]
  rw [lastData, nextData]

omit [Field R] [LinearOrder R] [FloorRing R] in
/-- The filter of noise masks points within five metres and leaves all others
as they are, each in its place. -/
theorem noiseFilter_forall₂ (tmp : List (PointData R)) :
    List.Forall₂
      (fun point left => left = point ∨
        left = point.mask ∧ point.distance.toNat < 5000)
      tmp (noiseFilter tmp) := by
  rw [List.forall₂_iff_get]
  refine ⟨(length_noiseFilter tmp).symm, ?_⟩
  intro i within inside
  have nonempty : 0 < tmp.length := Nat.zero_lt_of_lt within
  simp only [List.get_eq_getElem]
  rw [getElem_noiseFilter tmp i within inside (Nat.mod_lt _ nonempty)
    (Nat.mod_lt _ nonempty)]
  split
  next masked =>
    refine Or.inr ⟨rfl, ?_⟩
    by_contra far
    have nearer : ¬tmp[i].distance.toNat < 500 := by omega
    simp [noise, far, nearer] at masked
  next => exact Or.inl rfl

omit [Field R] [LinearOrder R] [FloorRing R] in
/-- It does not matter where in the circle the points begin. -/
theorem noiseFilter_rotate (tmp : List (PointData R)) (turn : Nat) :
    noiseFilter (tmp.rotate turn) = (noiseFilter tmp).rotate turn := by
  apply List.ext_getElem
  · simp
  · intro i within _
    have inside : i < tmp.length := by simpa using within
    have nonempty : 0 < tmp.length := Nat.zero_lt_of_lt inside
    have turned : 0 < (tmp.rotate turn).length := by simpa using nonempty
    have before : ((i + tmp.length - 1) % tmp.length + turn) % tmp.length =
        ((i + turn) % tmp.length + tmp.length - 1) % tmp.length := by
      rw [Nat.mod_add_mod]
      conv_rhs => rw [Nat.add_sub_assoc (by omega), Nat.mod_add_mod]
      congr 1
      omega
    have after : ((i + 1) % tmp.length + turn) % tmp.length =
        ((i + turn) % tmp.length + 1) % tmp.length := by
      rw [Nat.mod_add_mod, Nat.mod_add_mod]
      congr 1
      omega
    have place : (i + turn) % tmp.length < tmp.length := Nat.mod_lt _ nonempty
    have left := getElem_noiseFilter (tmp.rotate turn) i (by simpa using inside)
      within (Nat.mod_lt _ turned) (Nat.mod_lt _ turned)
    have right := getElem_noiseFilter tmp ((i + turn) % tmp.length) place
      (by simpa using place) (Nat.mod_lt _ nonempty) (Nat.mod_lt _ nonempty)
    rw [left]
    simp only [List.getElem_rotate, List.length_rotate, before, after,
      length_noiseFilter]
    exact right.symm

omit [Field R] [LinearOrder R] [FloorRing R] in
/-- The filter of noise masks points within five metres and leaves all others
as they are, each in its place; and it does not matter where in the circle the
points begin. -/
theorem noiseFilter_circle (tmp : List (PointData R)) (turn : Nat) :
    List.Forall₂
        (fun point left => left = point ∨
          left = point.mask ∧ point.distance.toNat < 5000)
        tmp (noiseFilter tmp) ∧
      noiseFilter (tmp.rotate turn) = (noiseFilter tmp).rotate turn :=
  ⟨noiseFilter_forall₂ tmp, noiseFilter_rotate tmp turn⟩

/-- A filtered point comes from one that was given to the filter. -/
theorem filter_origin
    (tofbf : Tofbf R)
    (sorting : Sorting (PointData.angle (R := R)))
    {tmp : List (PointData R)}
    {left : PointData R}
    (member : left ∈ tofbf.filter sorting tmp) :
    ∃ point ∈ tmp, KeptOrMasked point left := by
  unfold filter at member
  split at member
  next =>
    by_cases closed :
        ClosedCircle tofbf.angleDeltaUpLimit (pending sorting tmp)
    · rw [tofbf.nearFilter_closedCircle sorting closed] at member
      exact ⟨left, List.mem_of_mem_filter member, Or.inl rfl⟩
    · exact (tofbf.masks_nearFilter sorting closed).origin member
  next =>
    apply exists_of_mem_right _ member
    exact (noiseFilter_forall₂ tmp).imp
      fun _ _ kept => kept.imp_right And.left
  next => exact ⟨left, member, Or.inl rfl⟩

end Tofbf
end Skatebot

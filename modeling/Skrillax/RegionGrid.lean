/-
**The regions around a player.**

The world is divided into regions of 1920 by 1920, and the number of a region has one byte for each
coordinate.  `visibility_update` puts all entities into the region that they are in, and measures the
distance of those only that are in the region of the player or in one of the eight around it.  At the edge of
the range of a byte there are no such regions, which is a panic in a debug build.

Coordinates are exact numbers here, and not floating-point ones.

Main definitions:

* `Region`, `Region.fromXy`, `withGridNeighbours` — regions and the ones around them;
* `GlobalPosition.region`, `distanceTo` — where a position is, and how far from another;
* `updateVisibility` — the system on this grid.

Main results:

* `mem_withGridNeighbours` — the regions around a region that is not at the edge;
* `GlobalPosition.adjacent_of_distanceTo_lt` — what is near is in one of them;
* `updateVisibility_finds` — **the entities that are found are all that are near**.
-/

import Skrillax.CellSearch
import Skrillax.RustInt
import Skrillax.Visibility

set_option relaxedAutoImplicit false
set_option autoImplicit false

namespace Skrillax

open Rust

/-! ### Regions -/

structure Region where
  id : UInt16
  deriving DecidableEq, Repr

namespace Region

def fromXy (x y : UInt8) : Region := ⟨(y.toUInt16 <<< 8) ||| x.toUInt16⟩

def y (region : Region) : UInt8 := (region.id >>> 8).toUInt8

def x (region : Region) : UInt8 := (region.id &&& 0xFF).toUInt8

theorem id_fromXy (x y : UInt8) : (fromXy x y).id.toNat = 256 * y.toNat + x.toNat := by
  have hx := x.toNat_lt
  have hy := y.toNat_lt
  have hshift : (y.toUInt16 <<< 8).toNat = 2 ^ 8 * y.toNat := by
    rw [UInt16.toNat_shiftLeft, UInt8.toNat_toUInt16, Nat.shiftLeft_eq]
    change y.toNat * 2 ^ 8 % 2 ^ 16 = _
    omega
  rw [fromXy, UInt16.toNat_or, hshift, UInt8.toNat_toUInt16, ← Nat.two_pow_add_eq_or_of_lt hx]

theorem toNat_y (region : Region) : region.y.toNat = region.id.toNat / 256 := by
  have hid := region.id.toNat_lt
  rw [y, UInt16.toNat_toUInt8, UInt16.toNat_shiftRight, Nat.shiftRight_eq_div_pow]
  change region.id.toNat / 2 ^ 8 % 2 ^ 8 = _
  omega

theorem toNat_x (region : Region) : region.x.toNat = region.id.toNat % 256 := by
  rw [x, UInt16.toNat_toUInt8, UInt16.toNat_and]
  change (region.id.toNat &&& (2 ^ 8 - 1)) % 2 ^ 8 = _
  rw [Nat.and_two_pow_sub_one_eq_mod, Nat.mod_mod]

@[simp] theorem x_fromXy (x y : UInt8) : (fromXy x y).x = x := by
  have hx := x.toNat_lt
  apply UInt8.toNat_inj.1
  rw [toNat_x, id_fromXy]
  omega

@[simp] theorem y_fromXy (x y : UInt8) : (fromXy x y).y = y := by
  have hx := x.toNat_lt
  apply UInt8.toNat_inj.1
  rw [toNat_y, id_fromXy]
  omega

theorem fromXy_x_y (region : Region) : fromXy region.x region.y = region := by
  have hid : (fromXy region.x region.y).id = region.id := by
    apply UInt16.toNat_inj.1
    rw [id_fromXy, toNat_x, toNat_y]
    omega
  exact congrArg Region.mk hid

theorem eq_fromXy_iff {region : Region} {x y : UInt8} :
    region = fromXy x y ↔ region.x = x ∧ region.y = y := by
  constructor
  · rintro rfl
    exact ⟨x_fromXy x y, y_fromXy x y⟩
  · rintro ⟨rfl, rfl⟩
    exact (fromXy_x_y region).symm

/-- Neither coordinate differs by more than one. -/
def Adjacent (region other : Region) : Prop :=
  |(region.x.toNat : ℤ) - other.x.toNat| ≤ 1 ∧ |(region.y.toNat : ℤ) - other.y.toNat| ≤ 1

end Region

/-- The region itself comes second. -/
def withGridNeighbours (p : Profile) (region : Region) : Option (List Region) := do
  let west ← p.subU8 region.x 1
  let east ← p.addU8 region.x 1
  let south ← p.subU8 region.y 1
  let north ← p.addU8 region.y 1
  return [Region.fromXy west region.y, region, Region.fromXy east region.y,
    Region.fromXy west south, Region.fromXy region.x south, Region.fromXy east south,
    Region.fromXy west north, Region.fromXy region.x north, Region.fromXy east north]

/-- **The regions around a region that is not at the edge.** -/
theorem mem_withGridNeighbours (p : Profile) {region : Region}
    (hx : 1 ≤ region.x.toNat ∧ region.x.toNat ≤ 254) (hy : 1 ≤ region.y.toNat ∧ region.y.toNat ≤ 254) :
    ∃ regions, withGridNeighbours p region = some regions ∧
      ∀ other, other ∈ regions ↔ region.Adjacent other := by
  have hwest : p.subU8 region.x 1 = some (region.x - 1) := by
    rw [Profile.subU8, if_pos]
    exact UInt8.le_iff_toNat_le.2 hx.1
  have heast : p.addU8 region.x 1 = some (region.x + 1) := by
    rw [Profile.addU8, if_pos]
    change region.x.toNat + 1 < 2 ^ 8
    omega
  have hsouth : p.subU8 region.y 1 = some (region.y - 1) := by
    rw [Profile.subU8, if_pos]
    exact UInt8.le_iff_toNat_le.2 hy.1
  have hnorth : p.addU8 region.y 1 = some (region.y + 1) := by
    rw [Profile.addU8, if_pos]
    change region.y.toNat + 1 < 2 ^ 8
    omega
  refine ⟨_, by rw [withGridNeighbours, hwest, heast, hsouth, hnorth]; rfl, fun other => ?_⟩
  have hself : other = region ↔ other.x = region.x ∧ other.y = region.y := by
    rw [← Region.eq_fromXy_iff, Region.fromXy_x_y]
  have hbelow (a b : UInt8) (hb : 1 ≤ b.toNat) : a = b - 1 ↔ a.toNat + 1 = b.toNat := by
    have hle : (1 : UInt8) ≤ b := UInt8.le_iff_toNat_le.2 hb
    rw [← UInt8.toNat_inj, UInt8.toNat_sub_of_le _ _ hle]
    change a.toNat = b.toNat - 1 ↔ _
    omega
  have habove (a b : UInt8) (hb : b.toNat ≤ 254) : a = b + 1 ↔ a.toNat = b.toNat + 1 := by
    rw [← UInt8.toNat_inj, UInt8.toNat_add]
    change a.toNat = (b.toNat + 1) % 2 ^ 8 ↔ _
    omega
  simp only [List.mem_cons, List.not_mem_nil, or_false, Region.eq_fromXy_iff, hself,
    hbelow _ _ hx.1, hbelow _ _ hy.1, habove _ _ hx.2, habove _ _ hy.2, ← UInt8.toNat_inj,
    Region.Adjacent, abs_le]
  omega

/-! ### Positions -/

/-- A cast of a floating-point number to `u8` cuts off the fraction, and stops at the ends of the range. -/
def asU8 (q : ℚ) : UInt8 := UInt8.ofNat (min ⌊q⌋.toNat 255)

structure GlobalPosition where
  x : ℚ
  y : ℚ
  z : ℚ
  deriving DecidableEq

namespace GlobalPosition

def region (position : GlobalPosition) : Region :=
  Region.fromXy (asU8 (position.x / 1920)) (asU8 (position.z / 1920))

/-- The square of the distance on the map, without the height. -/
def distanceTo (position other : GlobalPosition) : ℚ :=
  (position.x - other.x) ^ 2 + (position.z - other.z) ^ 2

/-- Both coordinates are inside of the regions with the numbers 1 to 254. -/
def InGrid (position : GlobalPosition) : Prop :=
  (1920 ≤ position.x ∧ position.x < 255 * 1920) ∧ (1920 ≤ position.z ∧ position.z < 255 * 1920)

theorem asU8_spec {a : ℚ} (hlower : 1920 ≤ a) (hupper : a < 255 * 1920) :
    ((asU8 (a / 1920)).toNat : ℤ) = ⌊a / 1920⌋ ∧ 1 ≤ (asU8 (a / 1920)).toNat ∧
      (asU8 (a / 1920)).toNat ≤ 254 := by
  have hone : 1 ≤ ⌊a / 1920⌋ := by
    rw [Int.le_floor]
    push_cast
    linarith
  have hlt : ⌊a / 1920⌋ < 255 := by
    rw [Int.floor_lt]
    push_cast
    linarith
  have htoNat : (asU8 (a / 1920)).toNat = ⌊a / 1920⌋.toNat := by
    rw [asU8, UInt8.toNat_ofNat']
    omega
  omega

variable {position other : GlobalPosition}

theorem region_inner (h : position.InGrid) :
    (1 ≤ position.region.x.toNat ∧ position.region.x.toNat ≤ 254) ∧
      (1 ≤ position.region.y.toNat ∧ position.region.y.toNat ≤ 254) := by
  rw [region, Region.x_fromXy, Region.y_fromXy]
  exact ⟨(asU8_spec h.1.1 h.1.2).2, (asU8_spec h.2.1 h.2.2).2⟩

/-- What is nearer than the size of a region is in the same region or in one of those around it. -/
theorem adjacent_of_distanceTo_lt {radius : ℚ} (h : position.InGrid) (hother : other.InGrid)
    (hradius : |radius| ≤ 1920) (hnear : position.distanceTo other < radius ^ 2) :
    position.region.Adjacent other.region := by
  have hsize : (0 : ℚ) < 1920 := by norm_num
  have hx : |position.x - other.x| < 1920 := CellSearch.abs_lt_of_add_sq_lt hnear hradius
  have hz : |position.z - other.z| < 1920 :=
    CellSearch.abs_lt_of_add_sq_lt (by rw [add_comm]; exact hnear) hradius
  rw [Region.Adjacent, region, region, Region.x_fromXy, Region.x_fromXy, Region.y_fromXy,
    Region.y_fromXy, (asU8_spec h.1.1 h.1.2).1, (asU8_spec hother.1.1 hother.1.2).1,
    (asU8_spec h.2.1 h.2.2).1, (asU8_spec hother.2.1 hother.2.2).1]
  exact ⟨CellSearch.abs_floor_div_sub_le_one hsize hx, CellSearch.abs_floor_div_sub_le_one hsize hz⟩

end GlobalPosition

/-! ### The system -/

/-- The grid for a player whose regions around are known. -/
def regionGrid (closeRegions : List Region) (radius : ℚ) : Grid Region GlobalPosition where
  region := GlobalPosition.region
  withGridNeighbours _ := closeRegions
  near position other := decide (position.distanceTo other < radius ^ 2)

variable {Pool : Type}

/-- `visibility_update` for one player. -/
def updateVisibility (p : Profile) (radius : ℚ) (client : Entity)
    (w : VisibleWorld Pool Region GlobalPosition) : Option (VisibleWorld Pool Region GlobalPosition) :=
  match w.client with
  | .playing _ _ => do
      let closeRegions ← withGridNeighbours p (w.position client).region
      return w.visibilityUpdate (regionGrid closeRegions radius) client
  | _ => some w

variable {w : VisibleWorld Pool Region GlobalPosition} {closeRegions : List Region} {radius : ℚ}
  {client : Entity}

/-- The entities that are looked at are a search through the cells of the grid. -/
theorem entitiesInRange_eq_search :
    w.entitiesInRange (regionGrid closeRegions radius) client =
      CellSearch.search (fun reference => (w.position reference.entity).region) w.references closeRegions
        fun reference => entityIndex reference.entity != entityIndex client &&
          decide ((w.position client).distanceTo (w.position reference.entity) < radius ^ 2) := by
  rw [VisibleWorld.entitiesInRange, List.filter_filter, CellSearch.search]
  exact congrArg (fun near => List.filter near _) (funext fun reference => Bool.and_comm _ _)

/-- **The entities that are found are all that are near.**  The system does not panic, and afterwards exactly
those are tracked that a search through all entities finds. -/
theorem updateVisibility_finds (p : Profile) {visibility : Visibility} {sent : List GroupSpawn}
    (hclient : w.client = .playing visibility sent) (hgrid : (w.position client).InGrid)
    (hothers : ∀ reference ∈ w.references, (w.position reference.entity).InGrid)
    (hradius : |radius| ≤ 1920)
    (hactive : ∃ region ∈ w.activity, (w.position client).region.Adjacent region) :
    ∃ w' visibility', updateVisibility p radius client w = some w' ∧
      w'.client = .playing visibility' sent ∧
      ∀ reference, reference ∈ visibility'.entitiesInRadius ↔
        reference ∈ w.references ∧ entityIndex reference.entity ≠ entityIndex client ∧
          (w.position client).distanceTo (w.position reference.entity) < radius ^ 2 := by
  obtain ⟨hx, hy⟩ := GlobalPosition.region_inner hgrid
  obtain ⟨closeRegions, hclose, hmem⟩ := mem_withGridNeighbours p hx hy
  have hisActive : w.isActive (regionGrid closeRegions radius) client = true := by
    obtain ⟨region, hregion, hadjacent⟩ := hactive
    exact List.any_eq_true.2 ⟨region, (hmem region).2 hadjacent, List.contains_iff_mem.2 hregion⟩
  refine ⟨w.visibilityUpdate (regionGrid closeRegions radius) client,
    visibility.update (w.entitiesInRange (regionGrid closeRegions radius) client), ?_, ?_,
    fun reference => ?_⟩
  · simp only [updateVisibility, hclient, hclose, Option.pure_def, Option.bind_eq_bind, Option.bind_some]
  · simp only [VisibleWorld.visibilityUpdate, hclient, hisActive, if_true]
  · rw [Visibility.mem_update, entitiesInRange_eq_search, CellSearch.mem_search_iff]
    · simp only [Bool.and_eq_true, bne_iff_ne, decide_eq_true_eq, ne_eq]
    · intro other hother hnear
      rw [Bool.and_eq_true, decide_eq_true_iff] at hnear
      exact (hmem _).2 (GlobalPosition.adjacent_of_distanceTo_lt hgrid (hothers other hother) hradius
        hnear.2)

/-- The player `1` stands at the border of a region, a monster `2` on the other side of it, and a monster
`3` farther away. -/
def borderWorld : VisibleWorld Unit Region GlobalPosition where
  world := ⟨[⟨1, some ⟨10, 1907⟩, some "Somebody", false, false⟩,
    ⟨2, some ⟨11, 1933⟩, none, false, false⟩, ⟨3, some ⟨12, 1933⟩, none, false, false⟩], [], [], (), ⟨∅, ∅⟩⟩
  position entity := if entity = 1 then ⟨3840, 0, 3840⟩ else if entity = 2 then ⟨3839, 0, 3839⟩ else
    ⟨5000, 0, 3840⟩
  activity := [Region.fromXy 2 2]
  client := .playing Visibility.new []

theorem updateVisibility_finds_across_border :
    ∃ w' visibility', updateVisibility .debug 100 1 borderWorld = some w' ∧
      w'.client = .playing visibility' [] ∧ ∀ reference, reference ∈ visibility'.entitiesInRadius ↔
        reference ∈ borderWorld.references ∧ entityIndex reference.entity ≠ entityIndex 1 ∧
          (borderWorld.position 1).distanceTo (borderWorld.position reference.entity) < 100 ^ 2 := by
  have hreferences : borderWorld.references = [⟨1, ⟨10, 1907⟩⟩, ⟨2, ⟨11, 1933⟩⟩, ⟨3, ⟨12, 1933⟩⟩] := rfl
  have hplayer : borderWorld.position 1 = ⟨3840, 0, 3840⟩ := rfl
  have hclose : borderWorld.position 2 = ⟨3839, 0, 3839⟩ := rfl
  have hfar : borderWorld.position 3 = ⟨5000, 0, 3840⟩ := rfl
  have hregion : (borderWorld.position 1).region = Region.fromXy 2 2 := by
    have hfloor : ⌊(3840 : ℚ) / 1920⌋ = 2 := by norm_num
    rw [hplayer, GlobalPosition.region, asU8, hfloor]
    rfl
  refine updateVisibility_finds .debug rfl ?_ ?_ ?_ ⟨Region.fromXy 2 2, List.mem_singleton.2 rfl, ?_⟩
  · norm_num [GlobalPosition.InGrid, hplayer]
  · rw [hreferences]
    simp only [List.forall_mem_cons, List.not_mem_nil, false_imp_iff, implies_true, and_true, hplayer,
      hclose, hfar]
    norm_num [GlobalPosition.InGrid]
  · norm_num [abs_of_pos]
  · rw [hregion, Region.Adjacent]
    norm_num

end Skrillax

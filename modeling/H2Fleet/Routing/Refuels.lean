import H2Fleet.Core.Codec
import H2Fleet.Core.Locks
import H2Fleet.Core.Run
import Mathlib.Data.List.MinMax
import Mathlib.Data.Prod.Lex

/-!
# Refuel plans

`plan_refuels` of the route optimizer walks a route and puts in a station wherever the next leg
would end below the safety range.  What it takes leaves the `Station` objects, which all buses
share, and is written back to `infra.stations` by `write_back_inventory`: rounded, into the column
of the bus's unit, where it is covered.  Places are a type with a distance; numbers are exact.
-/

namespace H2Fleet.Routing

open List

/-! ## Buses and stations -/

/-- `energy_type`; the schema admits these four. -/
inductive EnergyType where
  | h2
  | battery
  | diesel
  | cng
  deriving DecidableEq

inductive StationType where
  | h2
  | evCharger
  | diesel
  | cng
  | mixed
  deriving DecidableEq

def EnergyType.name : EnergyType → String
  | .h2 => "h2"
  | .battery => "battery"
  | .diesel => "diesel"
  | .cng => "cng"

def energyUnit : EnergyType → String
  | .battery => "kwh"
  | .diesel => "liters"
  | .h2 | .cng => "kg"

def energyStationType : EnergyType → StationType
  | .h2 => .h2
  | .battery => .evCharger
  | .diesel => .diesel
  | .cng => .cng

def stationServes (t : StationType) (e : EnergyType) : Bool := t = .mixed ∨ t = energyStationType e

structure Settings where
  consumption : EnergyType → ℚ
  mixedStationDetourFactor : ℚ
  rangeSafetyKm : ℚ

structure Bus (P : Type) where
  place : P
  h2CapacityKg : ℚ
  h2LevelPct : ℚ
  energyType : EnergyType
  energyCapacity : Option ℚ
  consumptionPer100km : Option ℚ

structure Station (P : Type) where
  stationID : String
  name : String
  place : P
  availableKg : ℚ
  stationType : StationType
  availableKwh : Option ℚ
  deriving DecidableEq

structure Stop (P : Type) where
  stopID : String
  place : P

structure RawRoute (P : Type) where
  bus : Bus P
  stops : List (Stop P)

/-- A `RefuelEvent`, with the amount before it is rounded. -/
structure RefuelEvent (P : Type) where
  station : Station P
  unitsTaken : ℚ
  atStopSequence : ℕ
  energyType : EnergyType

/-- `kg_taken`: rounded to two places. -/
def RefuelEvent.kgTaken {P : Type} (r : RefuelEvent P) : ℚ := roundEven (r.unitsTaken * 100) / 100

variable {P : Type}

def Bus.capacityUnits (bus : Bus P) : ℚ :=
  if bus.energyType = .h2 then bus.h2CapacityKg else bus.energyCapacity.getD bus.h2CapacityKg

def Bus.levelUnits (bus : Bus P) : ℚ := bus.capacityUnits * bus.h2LevelPct / 100

namespace Station

variable (st : Station P)

/-- Less of both stocks; there is no less of one that is not kept. -/
def minus (x : ℚ × ℚ) : Station P :=
  { st with availableKg := st.availableKg - x.1, availableKwh := st.availableKwh.map (· - x.2) }

/-- `_station_stock`. -/
def stock : EnergyType → ℚ
  | .battery => st.availableKwh.getD st.availableKg
  | _ => st.availableKg

/-- What `_station_take` takes, as kg and kWh. -/
def draw (e : EnergyType) (units : ℚ) : ℚ × ℚ :=
  if e = .battery ∧ st.availableKwh.isSome then (0, units) else (units, 0)

/-- `_station_take`. -/
def take (e : EnergyType) (units : ℚ) : Station P := st.minus (st.draw e units)

def Nonneg : Prop := 0 ≤ st.availableKg ∧ ∀ x ∈ st.availableKwh, 0 ≤ x
  deriving Decidable

def total : ℚ := st.availableKg + st.availableKwh.getD 0

variable {st : Station P} {e : EnergyType} {units : ℚ}

lemma take_nonneg (h : st.Nonneg) (hstock : units ≤ st.stock e) : (st.take e units).Nonneg := by
  obtain ⟨hkg, hkwh⟩ := h
  cases e <;> cases hx : st.availableKwh <;> simp_all [take, draw, minus, Nonneg, stock]

lemma total_take : (st.take e units).total = st.total - units := by
  cases e <;> cases hx : st.availableKwh <;> simp [take, draw, minus, total, hx] <;> ring

end Station

/-! ## Planning -/

section Planning

variable (cfg : Settings) (dist : P → P → ℚ) (bus : Bus P)

def consumptionPerKm : ℚ :=
  match bus.consumptionPer100km with
  | some c => if 0 < c then c / 100 else cfg.consumption bus.energyType
  | none => cfg.consumption bus.energyType

def rangeKm : ℚ := bus.levelUnits / consumptionPerKm cfg bus

def stationWeight (st : Station P) : ℚ :=
  if st.stationType = .mixed then cfg.mixedStationDetourFactor else 1

variable (c : ℚ)

def neededUnits (remaining : ℚ) : ℚ := bus.capacityUnits - remaining * c

/-- The nearest of the `candidates`, the first of several, with its position. -/
def chooseStation (stations : List (Station P)) (cur : P) (remaining : ℚ) :
    Option (Station P × ℕ) :=
  (stations.zipIdx.filter fun x => stationServes x.1.stationType bus.energyType ∧
    dist cur x.1.place ≤ remaining - cfg.rangeSafetyKm ∧
    min (neededUnits bus c remaining) 5 ≤ x.1.stock bus.energyType).argmin
    fun x => toLex (dist cur x.1.place * stationWeight cfg x.1, dist cur x.1.place)

/-- What `plan_refuels` returns, and the stations it leaves. -/
structure Plan (P : Type) where
  refuels : List (RefuelEvent P)
  energyEnd : ℚ
  feasible : Bool
  notes : List String
  stations : List (Station P)

/-- The loop of `plan_refuels`, from waypoint `seq` on. -/
def walk : List (Stop P) → List (Station P) → ℕ → P → ℚ → Plan P
  | [], stations, _, _, remaining => ⟨[], remaining * c, true, [], stations⟩
  | stop :: rest, stations, seq, cur, remaining =>
    if remaining - dist cur stop.place < cfg.rangeSafetyKm then
      match chooseStation cfg dist bus c stations cur remaining with
      | none => ⟨[], remaining * c, false,
          ["no reachable station with stock before " ++ stop.stopID ++ " (compatible with " ++
            bus.energyType.name ++ "; remaining " ++ formatFixed 1 remaining ++ " km)"], stations⟩
      | some (st, i) =>
        let units := min (neededUnits bus c remaining) (st.stock bus.energyType)
        let refuel := ⟨st, units, seq, bus.energyType⟩
        let stations := stations.set i (st.take bus.energyType units)
        let remaining := remaining - dist cur st.place + units / c
        if remaining - dist st.place stop.place < cfg.rangeSafetyKm then
          ⟨[refuel], remaining * c, false,
            ["range still insufficient for " ++ stop.stopID ++ " after refuel at " ++ st.name],
            stations⟩
        else
          let plan := walk rest stations (seq + 1) stop.place (remaining - dist st.place stop.place)
          { plan with refuels := refuel :: plan.refuels }
    else walk rest stations (seq + 1) stop.place (remaining - dist cur stop.place)

/-- `plan_refuels`: the stops of the route, and back to the depot. -/
def planRefuels (depot : Stop P) (stations : List (Station P)) (route : RawRoute P) : Plan P :=
  walk cfg dist route.bus (consumptionPerKm cfg route.bus) (route.stops ++ [depot]) stations
    0 route.bus.place (rangeKm cfg route.bus)

/-- The loop of `optimize_route` over the buses. -/
def planAll (depot : Stop P) : List (RawRoute P) → List (Station P) →
    List (Plan P) × List (Station P)
  | [], stations => ([], stations)
  | route :: routes, stations =>
    let plan := planRefuels cfg dist depot stations route
    let rest := planAll depot routes plan.stations
    (plan :: rest.1, rest.2)

/-! ## Driving a plan -/

def drive (energy : ℚ) (a b : P) : ℚ := energy - dist a b * c

def Safe (energy : ℚ) : Prop := cfg.rangeSafetyKm ≤ energy / c

/-- **The drive** from `cur` with `energy`, along the waypoints and refuels left. -/
inductive Drives : ℕ → P → ℚ → List (Stop P) → List (RefuelEvent P) → ℚ → Prop
  | arrived {seq cur energy} : Drives seq cur energy [] [] energy
  | leg {seq cur energy stop rest refuels final}
      (safe : Safe cfg c (drive dist c energy cur stop.place))
      (next : Drives (seq + 1) stop.place (drive dist c energy cur stop.place) rest refuels final) :
      Drives seq cur energy (stop :: rest) refuels final
  | refuel {seq cur energy stops r refuels final} (due : r.atStopSequence = seq)
      (serves : stationServes r.station.stationType bus.energyType)
      (safe : Safe cfg c (drive dist c energy cur r.station.place))
      (fits : drive dist c energy cur r.station.place + r.unitsTaken ≤ bus.capacityUnits)
      (next : Drives seq r.station.place (drive dist c energy cur r.station.place + r.unitsTaken)
        stops refuels final) : Drives seq cur energy stops (r :: refuels) final

def totalStock (stations : List (Station P)) : ℚ := (stations.map Station.total).sum

def totalTaken (refuels : List (RefuelEvent P)) : ℚ := (refuels.map (·.unitsTaken)).sum

/-- What a plan has to be, for the waypoints that are left. -/
structure Sound (stops : List (Stop P)) (stations : List (Station P)) (seq : ℕ) (cur : P)
    (energy : ℚ) (plan : Plan P) : Prop where
  nonneg : ∀ st ∈ plan.stations, st.Nonneg
  total : totalStock stations = totalStock plan.stations + totalTaken plan.refuels
  taken : 0 ≤ totalTaken plan.refuels
  kept : energy < bus.capacityUnits → totalTaken plan.refuels ≤ 0 → plan.refuels = []
  drives : plan.feasible = true →
    Drives cfg dist bus c seq cur energy stops plan.refuels plan.energyEnd

def Plan.Drivable (depot : Stop P) (route : RawRoute P) (plan : Plan P) : Prop :=
  Drives cfg dist route.bus (consumptionPerKm cfg route.bus) 0 route.bus.place route.bus.levelUnits
    (route.stops ++ [depot]) plan.refuels plan.energyEnd

variable {cfg dist bus c} {depot : Stop P} {stations : List (Station P)} {cur : P} {remaining : ℚ}

lemma chooseStation_spec {st : Station P} {i : ℕ}
    (h : chooseStation cfg dist bus c stations cur remaining = some (st, i)) :
    stations[i]? = some st ∧
      stationServes st.stationType bus.energyType ∧
      cfg.rangeSafetyKm ≤ remaining - dist cur st.place ∧
      min (neededUnits bus c remaining) 5 ≤ st.stock bus.energyType := by
  obtain ⟨hmem, hok⟩ := mem_filter.mp (argmin_mem h)
  obtain ⟨hserves, hreach, hstock⟩ := of_decide_eq_true hok
  exact ⟨mk_mem_zipIdx_iff_getElem?.mp hmem, hserves, by linarith, hstock⟩

/-- A bus takes something, unless its tank is full. -/
lemma units_pos {needed stock : ℚ} (h : min needed 5 ≤ stock) :
    (0 ≤ needed → 0 ≤ min needed stock) ∧ (0 < needed → 0 < min needed stock) := by
  grind

lemma take_sound {st : Station P} {i : ℕ} {units : ℚ} (hst : stations[i]? = some st)
    (hunits : units ≤ st.stock bus.energyType) (hstock : ∀ st ∈ stations, st.Nonneg) :
    (∀ st' ∈ stations.set i (st.take bus.energyType units), st'.Nonneg) ∧
      totalStock stations = totalStock (stations.set i (st.take bus.energyType units)) + units := by
  refine ⟨forall_mem_set hstock (Station.take_nonneg (hstock st (mem_of_getElem? hst)) hunits), ?_⟩
  rw [totalStock, totalStock, sum_set Station.total hst, Station.total_take]
  ring

/-- **The walk**, from any point of it with no more than a full tank. -/
lemma walk_sound (hdist : ∀ a b, 0 ≤ dist a b) (hc : 0 < c) (stops : List (Stop P)) (seq : ℕ)
    (hstock : ∀ st ∈ stations, st.Nonneg) (htank : remaining * c ≤ bus.capacityUnits) :
    Sound cfg dist bus c stops stations seq cur (remaining * c)
      (walk cfg dist bus c stops stations seq cur remaining) := by
  have hdrive : ∀ x a b, drive dist c (x * c) a b = (x - dist a b) * c := fun x a b => by
    rw [drive, sub_mul]
  have hsafe : ∀ {x}, cfg.rangeSafetyKm ≤ x → Safe cfg c (x * c) := fun {x} h => by
    rwa [Safe, mul_div_cancel_right₀ x hc.ne']
  have hlegs : ∀ x a b, (x - dist a b) * c ≤ x * c := fun x a b =>
    mul_le_mul_of_nonneg_right (sub_le_self x (hdist a b)) hc.le
  fun_induction walk cfg dist bus c stops stations seq cur remaining with
  | case1 => exact ⟨hstock, by simp [totalTaken], le_rfl, fun _ _ => rfl, fun _ => .arrived⟩
  | case2 => exact ⟨hstock, by simp [totalTaken], le_rfl, fun _ _ => rfl, nofun⟩
  | case3 stop rest stations seq cur remaining hshort st i hst units refuel =>
    obtain ⟨hat, -, -, hleast⟩ := chooseStation_spec hst
    obtain ⟨hnonneg, htotal⟩ := take_sound hat (min_le_right _ _) hstock
    obtain ⟨hunits, hpos⟩ := units_pos hleast
    have hall : totalTaken [refuel] = units := sum_singleton
    refine ⟨hnonneg, by rwa [hall], ?_, fun hfull h => ?_, nofun⟩
    · exact (hunits (sub_nonneg.mpr htank)).trans hall.ge
    · linarith [hpos (sub_pos.mpr hfull)]
  | case4 stop rest stations seq cur remaining hshort st i hst units refuel stations' remaining'
      henough plan ih =>
    obtain ⟨hat, hserves, hreach, hleast⟩ := chooseStation_spec hst
    obtain ⟨hnonneg, htotal⟩ := take_sound hat (min_le_right _ _) hstock
    obtain ⟨hunits, hpos⟩ := units_pos hleast
    have htaken : (remaining - dist cur st.place) * c + units = remaining' * c := by
      rw [add_mul, div_mul_cancel₀ _ hc.ne']
    have hfits : remaining' * c ≤ bus.capacityUnits := by
      have hneeded : units ≤ bus.capacityUnits - remaining * c := min_le_left _ _
      linarith [hlegs remaining cur st.place]
    have hnext := ih hnonneg ((hlegs _ _ _).trans hfits)
    have hall : totalTaken (refuel :: plan.refuels) = units + totalTaken plan.refuels := sum_cons
    refine ⟨hnext.nonneg, ?_, ?_, fun hfull h => ?_,
      fun hfeasible => .refuel rfl hserves ?_ ?_ (.leg ?_ ?_)⟩
    · linarith [hnext.total]
    · linarith [hnext.taken, hunits (sub_nonneg.mpr htank)]
    · linarith [hnext.taken, hpos (sub_pos.mpr hfull)]
    all_goals simp only [refuel, hdrive, htaken]
    · exact hsafe hreach
    · exact hfits
    · exact hsafe (not_lt.mp henough)
    · exact hnext.drives hfeasible
  | case5 stop rest stations seq cur remaining henough ih =>
    have hnext := ih hstock ((hlegs _ _ _).trans htank)
    refine ⟨hnext.nonneg, hnext.total, hnext.taken,
      fun hfull => hnext.kept ((hlegs _ _ _).trans_lt hfull), fun hfeasible => .leg ?_ ?_⟩
    all_goals rw [hdrive]
    · exact hsafe (not_lt.mp henough)
    · exact hnext.drives hfeasible

lemma planRefuels_sound (depot : Stop P) (hdist : ∀ a b, 0 ≤ dist a b) {route : RawRoute P}
    (hc : 0 < consumptionPerKm cfg route.bus)
    (hlevel : route.bus.levelUnits ≤ route.bus.capacityUnits)
    (hstock : ∀ st ∈ stations, st.Nonneg) :
    Sound cfg dist route.bus (consumptionPerKm cfg route.bus) (route.stops ++ [depot]) stations 0
      route.bus.place route.bus.levelUnits (planRefuels cfg dist depot stations route) := by
  have henergy : rangeKm cfg route.bus * consumptionPerKm cfg route.bus = route.bus.levelUnits :=
    div_mul_cancel₀ _ hc.ne'
  rw [← henergy]
  exact walk_sound hdist hc _ 0 hstock (henergy.trans_le hlevel)

/-- **Feasible plans can be driven**, and the stations lose what the buses take. -/
theorem planRefuels_drivable (hdist : ∀ a b, 0 ≤ dist a b) {routes : List (RawRoute P)}
    (hroutes : ∀ r ∈ routes, 0 < consumptionPerKm cfg r.bus ∧
    r.bus.levelUnits ≤ r.bus.capacityUnits) (hstock : ∀ st ∈ stations, st.Nonneg) :
    (∀ rp ∈ routes.zip (planAll cfg dist depot routes stations).1, rp.2.feasible = true →
      rp.2.Drivable cfg dist depot rp.1) ∧
    (∀ st ∈ (planAll cfg dist depot routes stations).2, st.Nonneg) ∧
    totalStock stations - totalStock (planAll cfg dist depot routes stations).2 =
      totalTaken ((planAll cfg dist depot routes stations).1.flatMap (·.refuels)) := by
  induction routes generalizing stations with
  | nil => exact ⟨nofun, hstock, by simp [planAll, totalTaken]⟩
  | cons route routes ih =>
    obtain ⟨⟨hc, hlevel⟩, hroutes⟩ := forall_mem_cons.mp hroutes
    have hplan := planRefuels_sound depot hdist hc hlevel hstock
    obtain ⟨hdrives, hnonneg, htotal⟩ := ih hroutes hplan.nonneg
    refine ⟨forall_mem_cons.mpr ⟨hplan.drives, hdrives⟩, hnonneg, ?_⟩
    have hfirst := hplan.total
    simp only [totalTaken, planAll, flatMap_cons, map_append, sum_append] at hfirst htotal ⊢
    linarith

/-- A bus that can be driven as it is takes nothing. -/
lemma walk_of_drives (hc : 0 < c) {seq : ℕ} {energy final : ℚ} {stops : List (Stop P)}
    {refuels : List (RefuelEvent P)}
    (h : Drives cfg dist bus c seq cur energy stops refuels final) (hnone : refuels = []) :
    (walk cfg dist bus c stops stations seq cur (energy / c)).stations = stations := by
  induction h with
  | arrived => rfl
  | @leg _ cur energy stop _ _ _ safe _ ih =>
    have hnext : drive dist c energy cur stop.place / c = energy / c - dist cur stop.place := by
      rw [drive, sub_div, mul_div_cancel_right₀ _ hc.ne']
    rw [walk, ← hnext, if_neg (not_lt.mpr safe), ih hnone]
  | refuel => cases hnone

/-- **The stations are left as they are** exactly if all buses can be driven as they are. -/
lemma planAll_keeps_iff (hdist : ∀ a b, 0 ≤ dist a b) {routes : List (RawRoute P)}
    (hroutes : ∀ r ∈ routes, 0 < consumptionPerKm cfg r.bus ∧
      r.bus.levelUnits < r.bus.capacityUnits) (hstock : ∀ st ∈ stations, st.Nonneg) :
    totalStock (planAll cfg dist depot routes stations).2 ≤ totalStock stations ∧
    ((∀ plan ∈ (planAll cfg dist depot routes stations).1, plan.feasible = true) →
      ((planAll cfg dist depot routes stations).2 = stations ↔
        ∀ r ∈ routes, ∃ plan : Plan P, plan.refuels = [] ∧ plan.Drivable cfg dist depot r)) := by
  induction routes generalizing stations with
  | nil => exact ⟨le_rfl, fun _ => ⟨nofun, fun _ => rfl⟩⟩
  | cons route routes ih =>
    obtain ⟨⟨hc, hlevel⟩, hroutes⟩ := forall_mem_cons.mp hroutes
    have hplan := planRefuels_sound depot hdist hc hlevel.le hstock
    obtain ⟨hle, hiff⟩ := ih hroutes hplan.nonneg
    have hkeeps : (∃ plan : Plan P, plan.refuels = [] ∧ plan.Drivable cfg dist depot route) →
        (planRefuels cfg dist depot stations route).stations = stations :=
      fun ⟨_, hnone, hdrives⟩ => walk_of_drives hc hdrives hnone
    refine ⟨hle.trans (by linarith [hplan.total, hplan.taken]), fun hfeasible => ?_⟩
    obtain ⟨hfirst, hrest⟩ := forall_mem_cons.mp hfeasible
    rw [forall_mem_cons, planAll]
    constructor
    · intro h
      have hnone := hplan.kept hlevel (by linarith [hplan.total, congrArg totalStock h])
      refine ⟨⟨_, hnone, hplan.drives hfirst⟩, (hiff hrest).mp (h.trans ?_)⟩
      exact (hkeeps ⟨_, hnone, hplan.drives hfirst⟩).symm
    · exact fun ⟨hdriven, hall⟩ => ((hiff hrest).mpr hall).trans (hkeeps hdriven)

end Planning

/-- A road: a depot at 32, a station at 1, and a bus at 0 that is to come home. -/
def road : Settings × Stop ℚ × Station ℚ × RawRoute ℚ :=
  (⟨fun _ => 1, 1, 20⟩, ⟨"DEPOT", 32⟩, ⟨"A", "Station A", 1, 500, .h2, none⟩,
    ⟨⟨0, 100, 30001 / 1000, .h2, none, none⟩, []⟩)

def roadPlan : List (Plan ℚ) × List (Station ℚ) :=
  planAll road.1 (fun a b => |a - b|) road.2.1 [road.2.2.2] [road.2.2.1]

theorem planRefuels_drivable_road : roadPlan.1.map (·.feasible) = [true] ∧
    totalStock [road.2.2.1] - totalStock roadPlan.2 = totalTaken (roadPlan.1.flatMap (·.refuels)) :=
  ⟨by decide +kernel,
    (planRefuels_drivable (fun a b => abs_nonneg _) (by decide +kernel) (by decide +kernel)).2.2⟩

/-! ## Writing back -/

/-- The notes on refuels that are skipped. -/
inductive WriteNote where
  | columnMissing (stationID : String)
  | insufficient (stationID : String)
  deriving DecidableEq

def WriteNote.text : WriteNote → String
  | .columnMissing id => "inventory write-back skipped for station " ++ id ++
      ": available_kwh not present (pre-0008 schema)"
  | .insufficient id =>
    "inventory write-back skipped for station " ++ id ++ ": insufficient recorded stock"

/-- The WHERE clause of a refuel's UPDATE, and what it subtracts. -/
def RefuelEvent.update (r : RefuelEvent P) (row : Station P) : Bool × ℚ × ℚ :=
  if energyUnit r.energyType = "kwh" then
    (row.stationID = r.station.stationID ∧ row.availableKwh.any (r.kgTaken ≤ ·), 0, r.kgTaken)
  else (row.stationID = r.station.stationID ∧ r.kgTaken ≤ row.availableKg, r.kgTaken, 0)

/-- The columns of `infra.stations`, as the migrations have them. -/
def stationColumns : List String :=
  ["id", "name", "capacity_kg", "available_kg", "status", "geom", "station_type", "available_kwh",
    "charger_count"]

/-- The loop body of `write_back_inventory`.  Without `station_id` the UPDATEs raise. -/
def writeBack (columns : List String) (w : List (Station P) × List WriteNote) (r : RefuelEvent P) :
    Option (List (Station P) × List WriteNote) :=
  if energyUnit r.energyType = "kwh" ∧ "available_kwh" ∉ columns then
    some (w.1, w.2 ++ [.columnMissing r.station.stationID])
  else if "station_id" ∉ columns then none
  else if w.1.any fun row => (r.update row).1 then
    some (w.1.map fun row => if (r.update row).1 then row.minus (r.update row).2 else row, w.2)
  else some (w.1, w.2 ++ [.insufficient r.station.stationID])

/-- The rows and notes after `write_back_inventory`; what raises is rolled back. -/
def writeBackInventory (columns : List String) (rows : List (Station P))
    (refuels : List (RefuelEvent P)) : List (Station P) × List WriteNote :=
  (run (writeBack columns) (rows, []) refuels).getD (rows, [])

/-- **Nothing is written back**: `infra.stations` has no `station_id`. -/
lemma writeBackInventory_rows (rows : List (Station P)) (refuels : List (RefuelEvent P)) :
    (writeBackInventory stationColumns rows refuels).1 = rows ∧
      ∀ id, .insufficient id ∉ (writeBackInventory stationColumns rows refuels).2 := by
  cases refuels with
  | nil => exact ⟨rfl, nofun⟩
  | cons r refuels =>
    have hraises : writeBack stationColumns (rows, []) r = none := by
      simp [writeBack, stationColumns]
    rw [writeBackInventory, run_cons, hraises]
    exact ⟨rfl, nofun⟩

lemma minus_update_iff {r : RefuelEvent P} {row : Station P} (h : (r.update row).1 = true) :
    row.minus (r.update row).2 = row.take r.energyType r.unitsTaken ↔ r.kgTaken = r.unitsTaken := by
  cases he : r.energyType <;> cases hx : row.availableKwh <;>
    simp_all [RefuelEvent.update, energyUnit, Station.take, Station.draw, Station.minus]

/-- Were there a `station_id`, the rows found would lose what is taken exactly if that has no more
than two decimals. -/
lemma writeBackInventory_exact_iff {columns : List String} (hid : "station_id" ∈ columns)
    (hkwh : "available_kwh" ∈ columns) {rows : List (Station P)} {r : RefuelEvent P}
    (hfound : ∃ row ∈ rows, (r.update row).1 = true) :
    (writeBackInventory columns rows [r]).1 = rows.map (fun row =>
      if (r.update row).1 then row.take r.energyType r.unitsTaken else row) ↔
      r.kgTaken = r.unitsTaken := by
  have hany : (rows.any fun row => (r.update row).1) = true := any_eq_true.mpr hfound
  simp only [writeBackInventory, run_cons, run_nil, writeBack, hid, hkwh, hany, not_true_eq_false,
    and_false, if_false, if_true, Option.bind_some, Option.getD_some, map_inj_left]
  constructor
  · intro h
    obtain ⟨row, hrow, hupdate⟩ := hfound
    exact (minus_update_iff hupdate).mp (by simpa [hupdate] using h row hrow)
  · intro h row _
    split_ifs with hupdate
    · exact (minus_update_iff hupdate).mpr h
    · rfl

/-- **Rows and objects agree** exactly if the planner has left every station as it was; if all plans
are feasible, from tanks that are not full: exactly if no bus has to refuel. -/
theorem writeBack_agrees_iff (cfg : Settings) (dist : P → P → ℚ) (depot : Stop P)
    (routes : List (RawRoute P)) (stations : List (Station P)) :
    (((writeBackInventory stationColumns stations
        ((planAll cfg dist depot routes stations).1.flatMap (·.refuels))).1 =
        (planAll cfg dist depot routes stations).2 ∧
      ∀ id, .insufficient id ∉ (writeBackInventory stationColumns stations
        ((planAll cfg dist depot routes stations).1.flatMap (·.refuels))).2) ↔
      (planAll cfg dist depot routes stations).2 = stations) ∧
    ((∀ a b, 0 ≤ dist a b) → (∀ r ∈ routes, 0 < consumptionPerKm cfg r.bus ∧
      r.bus.levelUnits < r.bus.capacityUnits) → (∀ st ∈ stations, st.Nonneg) →
      (∀ plan ∈ (planAll cfg dist depot routes stations).1, plan.feasible = true) →
      ((planAll cfg dist depot routes stations).2 = stations ↔
        ∀ r ∈ routes, ∃ plan : Plan P, plan.refuels = [] ∧ plan.Drivable cfg dist depot r)) ∧
    ∀ columns, "station_id" ∈ columns → "available_kwh" ∈ columns →
      ∀ (rows : List (Station P)) (r : RefuelEvent P), (∃ row ∈ rows, (r.update row).1 = true) →
      ((writeBackInventory columns rows [r]).1 = rows.map (fun row =>
        if (r.update row).1 then row.take r.energyType r.unitsTaken else row) ↔
        r.kgTaken = r.unitsTaken) := by
  obtain ⟨hrows, hnotes⟩ := writeBackInventory_rows stations
    ((planAll cfg dist depot routes stations).1.flatMap (·.refuels))
  refine ⟨?_, fun hdist hroutes hstock => (planAll_keeps_iff hdist hroutes hstock).2,
    fun _ hid hkwh _ _ => writeBackInventory_exact_iff hid hkwh⟩
  rw [hrows]
  exact ⟨fun h => h.1.symm, fun h => ⟨h.symm, hnotes⟩⟩

/-- **A refuel is not written back.**  Were the row found, it would lose 70, the object 69.999. -/
theorem refuel_is_not_stored : roadPlan.2.map (·.availableKg) = [430001 / 1000] ∧
    (writeBackInventory stationColumns [road.2.2.1] (roadPlan.1.flatMap (·.refuels))).1.map
    (·.availableKg) =
      [500] ∧ (writeBackInventory ("station_id" :: stationColumns) [road.2.2.1]
      (roadPlan.1.flatMap (·.refuels))).1.map (·.availableKg) = [430] := by
  decide +kernel

end H2Fleet.Routing

import H2Fleet.Infra.Incidents

/-!
# What a leak incident records of its readings

`meta.h2_ppm` and `meta.readings` of `infra.incidents`.  `IngestLeak` writes them when it opens an
incident and with each reading that it folds into one, and nothing else does.  A fold takes the ppm
of the new reading if it has one, and not the greater one.
-/

namespace H2Fleet.Infra

open List

/-- The fields of `meta` that a fold reads; a JSON null is none. -/
structure Meta where
  h2Ppm : Option ℚ
  readings : Option ℕ
  deriving DecidableEq

namespace Meta

/-- `meta || jsonb_build_object(…)` of the UPDATE. -/
def fold (m : Meta) (r : Reading) : Meta := ⟨r.ppm.or m.h2Ppm, some (m.readings.getD 1 + 1)⟩

/-- What `IngestLeak` inserts with the reading that opens an incident. -/
def inserted (r : Reading) : Meta := ⟨r.ppm, some 1⟩

/-- The greatest ppm of the readings, and their number. -/
def Records (m : Meta) (rs : List Reading) : Prop :=
  m.h2Ppm = (rs.filterMap (·.ppm)).max? ∧ m.readings = some rs.length

/-- An incident that a reading opens is as one that it is folded into. -/
def empty : Meta := ⟨none, some 0⟩

lemma inserted_eq_fold (r : Reading) : inserted r = empty.fold r := by simp [inserted, fold, empty]

/-- **The last ppm is recorded**, or what the incident was opened with. -/
lemma foldl_fold {m : Meta} (rs : List Reading) (hrs : rs ≠ []) : rs.foldl fold m =
    ⟨(rs.filterMap (·.ppm)).getLast?.or m.h2Ppm, some (m.readings.getD 1 + rs.length)⟩ := by
  induction rs using reverseRecOn with
  | nil => exact absurd rfl hrs
  | append_singleton rs r ih =>
    rw [foldl_append, foldl_cons, foldl_nil, filterMap_append, length_append]
    rcases eq_or_ne rs [] with rfl | hne
    · cases hr : r.ppm <;> simp [fold, hr]
    · rw [ih hne]
      cases hr : r.ppm <;> simp [fold, hr, Nat.add_assoc]

end Meta

/-- `meta` of an incident that was opened with `m`. -/
def Incident.meta (m : Meta) (i : Incident) : Meta := i.readings.foldl Meta.fold m

lemma max?_concat (l : List ℚ) (a : ℚ) : (l ++ [a]).max? = some (l.max?.elim a (max · a)) := by
  cases l with
  | nil => rfl
  | cons b l => simp only [cons_append, max?_cons', foldl_append, foldl_cons, foldl_nil,
      Option.elim_some]

/-- The last one is the greatest after each exactly if they never fall. -/
lemma getLast_eq_max_iff (l : List ℚ) : (∀ l', l' <+: l → l'.getLast? = l'.max?) ↔
    l.Pairwise (· ≤ ·) := by
  induction l using reverseRecOn with
  | nil => simp
  | append_singleton l a ih =>
    have hlast : (l ++ [a]).getLast? = (l ++ [a]).max? ↔ ∀ q ∈ l, q ≤ a := by
      rw [getLast?_concat, max?_concat]
      cases hmax : l.max? with
      | none => simp [max?_eq_none_iff.mp hmax]
      | some q =>
        obtain ⟨hq, hle⟩ := max?_eq_some_iff.mp hmax
        rw [Option.elim_some, Option.some.injEq, eq_comm, max_eq_right_iff]
        exact ⟨fun h x hx => (hle x hx).trans h, fun h => h q hq⟩
    simp only [prefix_concat_iff, forall_eq_or_imp, hlast, ih, pairwise_append]
    simp [and_comm]

/-- **When an incident records its worst reading**: `meta` has the greatest ppm and the number of
readings after each of them exactly if it was opened counting from zero, with no ppm of its own
unless the first reading replaces it, and the ppm never falls. -/
theorem worst_recorded_iff (m : Meta) (r : Reading) (rs : List Reading) :
    ((∀ rs', rs' <+: r :: rs → rs' ≠ [] → (rs'.foldl Meta.fold m).Records rs') ↔
      m.readings = some 0 ∧ (r.ppm = none → m.h2Ppm = none) ∧
        ((r :: rs).filterMap (·.ppm)).Pairwise (· ≤ ·)) ∧
    (∀ now x i, (Incident.fold now x i).meta m = if i.Folds now x then (i.meta m).fold x else
      i.meta m) ∧
    Meta.inserted r = Meta.empty.fold r := by
  refine ⟨?_,
    fun now x i => by
    rw [Incident.fold]; split_ifs <;> simp [Incident.meta], Meta.inserted_eq_fold r⟩
  have hrecords : ∀ rs' ≠ [], (rs'.foldl Meta.fold m).Records rs' ↔
      (rs'.filterMap (·.ppm)).getLast?.or m.h2Ppm = (rs'.filterMap (·.ppm)).max? ∧
      m.readings = some 0 := by
    intro rs' hne
    rw [Meta.foldl_fold rs' hne]
    rcases m with ⟨q, _ | n⟩ <;> simp [Meta.Records]
  rw [← getLast_eq_max_iff]
  constructor
  · intro h
    obtain ⟨hfirst, hzero⟩ := (hrecords [r] (by simp)).mp (h [r] (by simp) (by simp))
    refine ⟨hzero, fun hr => by simpa [hr] using hfirst, fun l hl => ?_⟩
    obtain ⟨rs', hrs', rfl⟩ := prefix_filterMap_iff.mp hl
    rcases eq_or_ne (rs'.filterMap (·.ppm)) [] with hnil | hne
    · rw [hnil]
      rfl
    · have hrs : rs' ≠ [] := by rintro rfl; exact hne rfl
      have hmax := ((hrecords rs' hrs).mp (h rs' hrs' hrs)).1
      rwa [getLast?_eq_some_getLast hne] at hmax ⊢
  · rintro ⟨hzero, hopened, hsorted⟩ rs' hrs' hne
    refine (hrecords rs' hne).mpr ⟨?_, hzero⟩
    rw [hsorted _ (hrs'.filterMap _)]
    cases hmax : (rs'.filterMap (·.ppm)).max? with
    | some q => rfl
    | none =>
      -- no reading has a ppm, the first one among them
      obtain ⟨rs'', rfl⟩ : ∃ rs'', rs' = r :: rs'' := by
        cases rs' with
        | nil => exact absurd rfl hne
        | cons x rs'' => exact ⟨rs'', by rw [(cons_prefix_cons.mp hrs').1]⟩
      have hnone := filterMap_eq_nil_iff.mp (max?_eq_none_iff.mp hmax) r mem_cons_self
      rw [Option.none_or, hopened hnone]

/-- **A falling reading replaces the worst one.** -/
theorem falling_reading_recorded :
    Incident.meta Meta.empty ⟨"h2_leak", "high", none, .opened, 0, some "sensor-1",
      [⟨"sensor-1", none, "", some 8000⟩, ⟨"sensor-1", none, "", some 500⟩]⟩ =
      ⟨some 500, some 2⟩ := by
  decide +kernel

end H2Fleet.Infra

import H2Fleet.Citizen.Drt

/-!
# One DRT request for each vehicle

`PickVehicle` passes over the vehicles of `assigned` and `enroute` requests, but in a statement of
its own: two consumers pick the same vehicle before either has assigned it.  `validateAssignVehicle`
looks at the dispatch jobs of the vehicle and at no request, so an operator assigns a vehicle again
without a race.
-/

namespace H2Fleet.Citizen

namespace World

open Option

def Exclusive (w : World) : Prop :=
  ∀ (i j : ℕ) (r r' : DrtRequest) (v : String), w.requests[i]? = some r → w.requests[j]? = some r' →
    r.Serves v → r'.Serves v → i = j

/-- The UPDATE of `AssignDRT` changes a row. -/
def Assignable (w : World) (id : ℕ) (vehicle : String) : Prop :=
  (∃ r ∈ w.requests[id]?, r.status = .requested) ∧ ∃ v ∈ w.vehicles, v.id = vehicle
  deriving Decidable

variable {w w' : World}

/-! ## Who serves after a statement -/

lemma serves_of_updateRequest {id i : ℕ} {p : DrtRequest → Bool} {f : DrtRequest → DrtRequest}
    {r' : DrtRequest} {v : String} (hf : ∀ r, p r = true → (f r).Serves v → r.Serves v)
    (hr' : (w.updateRequest id p f).1.requests[i]? = some r') (hs : r'.Serves v) :
    ∃ r, w.requests[i]? = some r ∧ r.Serves v := by
  unfold updateRequest at hr'
  split at hr'
  · next r hr =>
      split_ifs at hr' with hp
      · rcases getElem?_set_cases hr' with ⟨rfl, rfl⟩ | ⟨-, hold⟩
        · exact ⟨r, hr, hf r hp hs⟩
        · exact ⟨r', hold, hs⟩
      · exact ⟨r', hr', hs⟩
  · exact ⟨r', hr', hs⟩

lemma assign_cases (w : World) (id : ℕ) (vehicle : String) (driver : Option String) :
    (¬ w.Assignable id vehicle ∧ (w.assign id vehicle driver).1 = w) ∨
      w.Assignable id vehicle ∧ ∃ r, w.requests[id]? = some r ∧ r.status = .requested ∧
        (w.assign id vehicle driver).1 = w.setRequest id
          ⟨r.userSub, r.requiresWheelchair, some vehicle, driver, some w.now, .assigned⟩ := by
  cases hr : w.requests[id]? with
  | none => exact .inl ⟨by simp [Assignable, hr], by simp [assign, hr]⟩
  | some r =>
    by_cases hstatus : r.status = .requested
    · by_cases hknown : ∃ v ∈ w.vehicles, v.id = vehicle
      · refine .inr ⟨⟨⟨r, hr, hstatus⟩, hknown⟩, r, rfl, hstatus, ?_⟩
        simp [assign, hr, hstatus, hknown]
      · refine .inl ⟨fun h => hknown h.2, ?_⟩
        simp [assign, hr, hstatus, hknown]
    · refine .inl ⟨fun h => hstatus ?_, by simp [assign, hr, hstatus]⟩
      obtain ⟨r₁, hr₁, hstatus₁⟩ := h.1
      rwa [some.inj (hr.symm.trans hr₁)]

variable {q : Statement} {x : Choice} {a : Answer q}

lemma serves_of_perform (h : w.perform q x = some (w', a)) {i : ℕ} {r' : DrtRequest} {v : String}
    (hr' : w'.requests[i]? = some r') (hs : r'.Serves v) :
    (∃ r, w.requests[i]? = some r ∧ r.Serves v) ∨
      ∃ driver, q = .assignVehicle i v driver ∧ w.Assignable i v := by
  have hfst : ∀ {p : World × Answer q}, some p = some (w', a) → w' = p.1 :=
    fun hp => (congrArg Prod.fst (some.inj hp)).symm
  have hread : w' = w → ∃ r, w.requests[i]? = some r ∧ r.Serves v := fun hw => ⟨r', hw ▸ hr', hs⟩
  cases q with
  | insertRequest userSub requiresWheelchair =>
    rw [hfst h] at hr'
    rcases getElem?_append_cases hr' with ⟨-, rfl⟩ | hold
    · cases hs.1
    · exact .inl ⟨r', hold, hs⟩
  | cancelRequest id =>
    rw [hfst h] at hr'
    exact .inl
      (serves_of_updateRequest (fun r _ hs => by rcases hs.2 with h | h <;> cases h) hr' hs)
  | assignVehicle id vehicle driver =>
    rw [hfst h] at hr'
    rcases w.assign_cases id vehicle driver with ⟨-, hsame⟩ | ⟨hassign, r, hr, hstatus, hset⟩
    · rw [hsame] at hr'
      exact .inl ⟨r', hr', hs⟩
    · rw [hset] at hr'
      rcases getElem?_set_cases hr' with ⟨rfl, rfl⟩ | ⟨-, hold⟩
      · cases hs.1
        exact .inr ⟨driver, rfl, hassign⟩
      · exact .inl ⟨r', hold, hs⟩
  | progressRequest id p =>
    rw [hfst h] at hr'
    refine .inl (serves_of_updateRequest (fun r hp hs => ?_) hr' hs)
    cases p with
    | start => exact ⟨hs.1, .inl (of_decide_eq_true hp)⟩
    | complete => rcases hs.2 with h | h <;> cases h
  | selectRequest id => exact .inl (hread (hfst h))
  | validateVehicle id vehicle => exact .inl (hread (hfst h))
  | selectWheelchair id => exact .inl (hread (hfst h))
  | selectVehicle pickup requiresWheelchair =>
    simp only [perform] at h
    split at h
    all_goals
      split_ifs at h
      exact .inl (hread (hfst h))

/-! ## One statement -/

/-- Only its assignment gives a vehicle without a request one. -/
lemma serves_of_answer (h : w.answer q x = some (w', a)) {i : ℕ} {r' : DrtRequest} {v : String}
    (hr' : w'.requests[i]? = some r') (hs : r'.Serves v) :
    (∃ r, w.requests[i]? = some r ∧ r.Serves v) ∨
      x.fault ≠ .refused ∧ ∃ driver, q = .assignVehicle i v driver ∧ w.Assignable i v := by
  rcases answer_world h with ⟨-, rfl⟩ | ⟨hx, a', ha'⟩
  · exact .inl ⟨r', hr', hs⟩
  · exact (serves_of_perform ha' hr' hs).imp_right fun hassign => ⟨hx, hassign⟩

lemma Exclusive.answer (hw : w.Exclusive)
    (hfree : ∀ id v driver, q = .assignVehicle id v driver → x.fault ≠ .refused →
    w.Assignable id v →
      ∀ r ∈ w.requests, ¬ r.Serves v) (h : w.answer q x = some (w', a)) : w'.Exclusive := by
  intro i j r r' v hr hr' hs hs'
  rcases serves_of_answer h hr hs with ⟨r₀, hr₀, hs₀⟩ | ⟨hx, driver, hq, hassign⟩
  · rcases serves_of_answer h hr' hs' with ⟨r₁, hr₁, hs₁⟩ | ⟨hx, driver, hq, hassign⟩
    · exact hw i j r₀ r₁ v hr₀ hr₁ hs₀ hs₁
    · exact absurd hs₀ (hfree j v driver hq hx hassign r₀ (List.mem_of_getElem? hr₀))
  · rcases serves_of_answer h hr' hs' with ⟨r₁, hr₁, hs₁⟩ | ⟨-, driver', hq', -⟩
    · exact absurd hs₁ (hfree i v driver hq hx hassign r₁ (List.mem_of_getElem? hr₁))
    · rw [hq] at hq'
      exact (Statement.assignVehicle.inj hq').1

/-- **The filter**: `PickVehicle` returns one without an active request. -/
lemma free_of_selectVehicle {pickup : Point} {requiresWheelchair : Bool} {v : String}
    (h : w.answer (.selectVehicle pickup requiresWheelchair) x = some (w', .ok v)) :
    w' = w ∧ ∀ r ∈ w.requests, ¬ r.Serves v := by
  unfold answer at h
  split at h
  · simp only [perform] at h
    split at h
    · next u hu =>
        split_ifs at h with hnearest
        cases h
        exact ⟨rfl, hnearest.2.1.2.2.1⟩
    · split_ifs at h
      cases h
  · cases h
  · obtain ⟨⟨w₁, b⟩, -, heq⟩ := map_eq_some_iff.mp h
    cases heq

lemma serves_of_ambient {v : Ambient} (h : w.ambient v = some w') {i : ℕ} {r' : DrtRequest}
    {vehicle : String} (hr' : w'.requests[i]? = some r') (hs : r'.Serves vehicle) :
    ∃ r, w.requests[i]? = some r ∧ r.Serves vehicle := by
  cases v with
  | fleet vehicles jobs distance =>
    cases h
    exact ⟨r', hr', hs⟩
  | tick d =>
    cases h
    exact ⟨r', hr', hs⟩
  | erase sub marker =>
    cases h
    rw [List.getElem?_map, map_eq_some_iff] at hr'
    obtain ⟨r, hr, rfl⟩ := hr'
    refine ⟨r, hr, ?_⟩
    split_ifs at hs with hsub
    · exact hs
    · exact hs

end World

/-! ## Every run -/

/-- The vehicle `PickVehicle` has returned last, but for the validation. -/
def pickedIn : List (Exchange Answer) → Option String
  | ⟨.selectVehicle _ _, .ok v⟩ :: _ => some v
  | ⟨.validateVehicle _ _, _⟩ :: ⟨.selectVehicle _ _, .ok v⟩ :: _ => some v
  | _ => none

/-- The vehicle `PickVehicle` has returned to a call whose UPDATE is to come. -/
def picked (call : Call Answer Ended) : Option String :=
  match call.prog with
  | .ask _ _ => pickedIn call.hist
  | .done _ => none

/-- The call and the vehicle of an assignment that takes effect. -/
def assigning (p : Calls) : Event → Option (ℕ × String)
  | .next c x =>
    match p.calls c with
    | some ⟨_, .ask (.assignVehicle id v _) _⟩ =>
      if x.fault ≠ .refused ∧ p.shared.Assignable id v then some (c, v) else none
    | _ => none
  | _ => none

/-- An assignment leaves to other calls what they have picked; an operator's vehicle has no active
request. -/
def Leaves (p : Calls) (ev : Event) (d : ℕ) (call : Call Answer Ended) : Prop :=
  ∀ cv ∈ assigning p ev,
    if d = cv.1 then picked call = some cv.2 ∨ ∀ r ∈ p.shared.requests, ¬ r.Serves cv.2
    else picked call ≠ some cv.2
  deriving Decidable

/-- No other request gets a vehicle between `PickVehicle` and the UPDATE of the call, and an
operator assigns a vehicle without an active request. -/
def Undisturbed (p : Calls) (ev : Event) : Prop := ∀ d, ∀ call ∈ p.calls d, Leaves p ev d call

/-- One request for each vehicle, and none for a vehicle that is picked. -/
structure Reserved (p : Calls) : Prop where
  exclusive : p.shared.Exclusive
  picked : ∀ d call, p.calls d = some call → ∀ v, picked call = some v →
    ∀ r ∈ p.shared.requests, ¬ r.Serves v

lemma pickedIn_of_picked {call : Call Answer Ended} {v : String} (h : picked call = some v) :
    pickedIn call.hist = some v := by
  unfold picked at h
  split at h
  · exact h
  · cases h

lemma pickedIn_validated {id : ℕ} {u v : String} {a : Answer (.validateVehicle id u)}
    {hist : List (Exchange Answer)} (h : pickedIn (⟨.validateVehicle id u, a⟩ :: hist) = some v) :
    pickedIn hist = some v := by
  match hist, h with
  | ⟨.selectVehicle _ _, .ok _⟩ :: _, h => exact h

variable {p p' : Calls}

/-- One answer: what the call has picked then has no active request. -/
lemma Reserved.picked_next (hp : Reserved p) {c : ℕ} {x : Choice} {hist : List (Exchange Answer)}
    {q : Statement} {k : Answer q → Prog Answer Ended} {w : World} {a : Answer q}
    (hcall : p.calls c = some ⟨hist, .ask q k⟩) (h : p.shared.answer q x = some (w, a)) {v : String}
    (hv : pickedIn (⟨q, a⟩ :: hist) = some v) : ∀ r ∈ w.requests, ¬ r.Serves v := by
  cases q with
  | selectVehicle pickup requiresWheelchair =>
    cases a with
    | ok u =>
      cases hv
      obtain ⟨rfl, hfree⟩ := World.free_of_selectVehicle h
      exact hfree
    | error e => cases hv
  | validateVehicle id u =>
    intro r hr hs
    obtain ⟨i, hi⟩ := List.mem_iff_getElem?.mp hr
    rcases World.serves_of_answer h hi hs with ⟨r₀, hr₀, hs₀⟩ | ⟨-, driver, hq, -⟩
    · exact hp.picked c _ hcall v (pickedIn_validated hv) r₀ (List.mem_of_getElem? hr₀) hs₀
    · cases hq
  | _ => cases hv

lemma assigning_next {c : ℕ} {x : Choice} {hist : List (Exchange Answer)} {id : ℕ} {v : String}
    {driver : Option String} {k : Answer (.assignVehicle id v driver) → Prog Answer Ended}
    (hcall : p.calls c = some ⟨hist, .ask (.assignVehicle id v driver) k⟩) (hx : x.fault ≠ .refused)
    (hassign : p.shared.Assignable id v) : assigning p (.next c x) = some (c, v) := by
  simp [assigning, hcall, hx, hassign]

lemma Reserved.step {ev : Event} (hp : Reserved p) (hok : Undisturbed p ev)
    (h : step p ev = some p') : Reserved p' := by
  cases Service.step_move h with
  | start c e hfree =>
    refine ⟨hp.exclusive, fun d call hd v hv => ?_⟩
    rcases update_call_cases hd with ⟨-, rfl⟩ | ⟨-, hd⟩
    · cases pickedIn_of_picked hv
    · exact hp.picked d call hd v hv
  | ambient v w hw =>
    refine ⟨fun i j r r' v hr hr' hs hs' => ?_, fun d call hd v hv r hr hs => ?_⟩
    · obtain ⟨r₀, hr₀, hs₀⟩ := World.serves_of_ambient hw hr hs
      obtain ⟨r₁, hr₁, hs₁⟩ := World.serves_of_ambient hw hr' hs'
      exact hp.exclusive i j r₀ r₁ v hr₀ hr₁ hs₀ hs₁
    · obtain ⟨i, hi⟩ := List.mem_iff_getElem?.mp hr
      obtain ⟨r₀, hr₀, hs₀⟩ := World.serves_of_ambient hw hi hs
      exact hp.picked d call hd v hv r₀ (List.mem_of_getElem? hr₀) hs₀
  | next c x hist q k w a hcall hanswer =>
    refine ⟨hp.exclusive.answer (fun id v driver hq hx hassign => ?_) hanswer,
      fun d call hd v hv => ?_⟩
    · -- the vehicle was picked, and is free by the invariant, or is an operator's
      subst hq
      have hleaves := hok c _ hcall _ (assigning_next hcall hx hassign)
      rw [if_pos rfl] at hleaves
      exact hleaves.elim (hp.picked c _ hcall v) fun hvacant => hvacant
    · rcases update_call_cases hd with ⟨-, rfl⟩ | ⟨hne, hold⟩
      · exact hp.picked_next hcall hanswer (pickedIn_of_picked hv)
      · intro r hr hs
        obtain ⟨i, hi⟩ := List.mem_iff_getElem?.mp hr
        rcases World.serves_of_answer hanswer hi hs with ⟨r₀, hr₀, hs₀⟩ | ⟨hx, driver, rfl, hassign⟩
        · exact hp.picked d call hold v hv r₀ (List.mem_of_getElem? hr₀) hs₀
        · have hleaves := hok d call hold _ (assigning_next hcall hx hassign)
          rw [if_neg hne] at hleaves
          exact hleaves hv

/-- **When a vehicle serves one request at a time**: in every run with undisturbed steps, every
state has at most one `assigned` or `enroute` request for each vehicle. -/
theorem one_request_per_vehicle (vehicles : List Vehicle) (jobs : List Infra.Job)
    (distance : String → Point → WithTop ℚ) (now : ℤ) {evs : List Event}
    (hok : Meets step Undisturbed (start vehicles jobs distance now) evs) :
    Throughout step (fun p => p.shared.Exclusive) (start vehicles jobs distance now) evs := by
  have hstart : Reserved (start vehicles jobs distance now) :=
    ⟨fun i j r r' v hr => by simp [start] at hr, fun d call hd => by simp [start] at hd⟩
  exact hok.throughout (fun _ hs => hs.exclusive) (fun _ _ _ hs => hs.step) hstart

def twoRequests : List Event :=
  [.start 0 (.createDRTRequest "ada" (some ⟨⟨1, 1⟩, 1, false⟩)), .next 0 .done,
   .start 1 (.createDRTRequest "bob" (some ⟨⟨1, 1⟩, 1, false⟩)), .next 1 .done]

def bus : Vehicle := ⟨"bus", "active", false⟩

def van : Vehicle := ⟨"van", "active", false⟩

/-- Two events are consumed at a time; an operator assigns the bus after its ride. -/
def oneEach : List Event :=
  [.start 2 (.autoAssign ⟨some 0, ⟨1, 1⟩⟩), .start 3 (.autoAssign ⟨some 1, ⟨1, 1⟩⟩),
   .next 2 .done, .next 3 .done, .next 2 ⟨.none, some bus⟩, .next 3 ⟨.none, some van⟩,
   .next 2 .done, .next 3 .done, .next 2 .done, .next 3 .done,
   .start 4 (.progressDRTRequest 0 (some .start)), .next 4 .done,
   .start 5 (.progressDRTRequest 0 (some .complete)), .next 5 .done,
   .start 6 (.createDRTRequest "cy" (some ⟨⟨1, 1⟩, 1, false⟩)), .next 6 .done,
   .start 7 (.assignDRTRequest 2 (some ("bus", ""))), .next 7 .done, .next 7 .done]

theorem vehicles_assigned_one_each :
    ∃ p, run step (start [bus, van] [] (fun _ _ => 0) 0) (twoRequests ++ oneEach) = some p ∧
      p.shared.requests.map (fun r => (r.vehicleID, r.status)) =
        [(some "bus", .completed), (some "van", .assigned), (some "bus", .assigned)] ∧
      Throughout step (fun p => p.shared.Exclusive) (start [bus, van] [] (fun _ _ => 0) 0)
        (twoRequests ++ oneEach) := by
  obtain ⟨p, hp, hvehicles⟩ : ∃ p, run step (start [bus, van] [] (fun _ _ => 0) 0)
      (twoRequests ++ oneEach) = some p ∧ p.shared.requests.map (fun r => (r.vehicleID, r.status)) =
        [(some "bus", .completed), (some "van", .assigned), (some "bus", .assigned)] := by
    decide +kernel
  have hbelow : Meets step (fun p ev => ∀ d < 8, ∀ call ∈ p.calls d, Leaves p ev d call)
      (start [bus, van] [] (fun _ _ => 0) 0) (twoRequests ++ oneEach) := by decide +kernel
  exact ⟨p, hp, hvehicles, one_request_per_vehicle _ _ _ _
    (Service.meets_of_below (by decide +kernel) (fun _ _ => rfl) hbelow)⟩

def operatorTwice : List Event :=
  [.start 2 (.assignDRTRequest 0 (some ("bus", ""))), .next 2 .done, .next 2 .done, .next 2 .done,
   .start 3 (.assignDRTRequest 1 (some ("bus", ""))), .next 3 .done, .next 3 .done, .next 3 .done]

/-- Two events are consumed at the same time. -/
def sideBySide : List Event :=
  [.start 2 (.autoAssign ⟨some 0, ⟨1, 1⟩⟩), .start 3 (.autoAssign ⟨some 1, ⟨1, 1⟩⟩),
   .next 2 .done, .next 3 .done, .next 2 ⟨.none, some bus⟩, .next 3 ⟨.none, some bus⟩,
   .next 2 .done, .next 3 .done, .next 2 .done, .next 3 .done]

/-- **A bus with two rides.**  The operator needs no race: the validation looks at no request. -/
theorem bus_assigned_twice :
    (∃ p, run step (start [bus] [] (fun _ _ => 0) 0) (twoRequests ++ operatorTwice) = some p ∧
      ¬ p.shared.Exclusive) ∧
    (∃ p, run step (start [bus] [] (fun _ _ => 0) 0) (twoRequests ++ sideBySide) = some p ∧
      ¬ p.shared.Exclusive) := by
  have htable : ∀ evs ∈ [operatorTwice, sideBySide],
      (run step (start [bus] [] (fun _ _ => 0) 0) (twoRequests ++ evs)).map (·.shared.requests) =
        some [⟨"ada", false, some "bus", none, some 0, .assigned⟩,
          ⟨"bob", false, some "bus", none, some 0, .assigned⟩] := by
    decide +kernel
  have hboth : ∀ evs ∈ [operatorTwice, sideBySide], ∃ p,
      run step (start [bus] [] (fun _ _ => 0) 0) (twoRequests ++ evs) = some p ∧
        ¬ p.shared.Exclusive := by
    intro evs hevs
    obtain ⟨p, hp, hrequests⟩ := Option.map_eq_some_iff.mp (htable evs hevs)
    refine ⟨p, hp, fun hexcl => ?_⟩
    have heq := hexcl 0 1 _ _ "bus" (by rw [hrequests]; rfl) (by rw [hrequests]; rfl)
      ⟨rfl, .inl rfl⟩ ⟨rfl, .inl rfl⟩
    cases heq
  exact ⟨hboth operatorTwice (by simp), hboth sideBySide (by simp)⟩

end H2Fleet.Citizen

import H2Fleet.Audit.Append

/-!
# The evidence pack's slice linkage

`GET /v1/incidents/{id}/evidence-pack` of the infra-api hands out the audit rows of one incident and
a verdict on them, `slice_linkage`: every row must name the hash of the row before it *in the
slice*, and the first one the hash of the row before it in the table.  The comment above the handler
says that this "proves the slice was not re-ordered, truncated or spliced".

The rows of all entities share one chain, and the slice leaves out the rows of the others.  So the
verdict asks whether the incident's rows stand next to one another in the chain, and deleting its
newest rows, or all of them, goes unreported.
-/

namespace H2Fleet.Infra

open List Option Audit

variable {J : Jsonb}

/-! ## The handler -/

/-- `slice_linkage` of the pack. -/
structure Linkage where
  checkedRows : ℕ
  intact : Bool
  breakAtID : Option ℕ
  deriving DecidableEq

/-- `SELECT … FROM platform.audit_log WHERE entity_id = $1 ORDER BY id`. -/
def auditSlice (rows : List (Row J)) (id : String) : List (Row J) :=
  rows.filter (·.entityID = id)

/-- The loop over the slice: the id of the first row that does not name the one before. -/
def firstBreak : List (Row J) → Option ℕ
  | a :: b :: slice => if b.prevHash ≠ a.hash then some b.id else firstBreak (b :: slice)
  | _ => none

/-- `SELECT hash FROM platform.audit_log WHERE id < $1 ORDER BY id DESC LIMIT 1`. -/
def hashAbove (rows : List (Row J)) (id : ℕ) : Option String :=
  (rows.filter (·.id < id)).getLast?.map Row.hash

/-- The slice-linkage verification of `GetEvidencePack`. -/
def sliceLinkage (rows : List (Row J)) (id : String) : Linkage :=
  let slice := auditSlice rows id
  match firstBreak slice with
  | some broken => ⟨slice.length, false, some broken⟩
  | none =>
    match slice with
    | [] => ⟨slice.length, true, none⟩
    | first :: _ =>
      match hashAbove rows first.id with
      | none =>
        -- the slice starts at the genesis of the chain
        if first.prevHash ≠ "" then ⟨slice.length, false, some first.id⟩
        else ⟨slice.length, true, none⟩
      | some prevHash =>
        if first.prevHash ≠ prevHash then ⟨slice.length, false, some first.id⟩
        else ⟨slice.length, true, none⟩

/-! ## What the verdict says -/

def Names (a b : Row J) : Prop := b.prevHash = a.hash

lemma firstBreak_eq_none_iff : ∀ {slice : List (Row J)}, firstBreak slice = none ↔
    slice.IsChain Names
  | [] => by simp [firstBreak]
  | [a] => by simp [firstBreak]
  | a :: b :: slice => by
    rw [firstBreak, isChain_cons_cons, Names]
    by_cases h : b.prevHash = a.hash
    · simp only [h, ne_eq, not_true_eq_false, if_false, true_and]
      exact firstBreak_eq_none_iff
    · simp [h]

/-- **The verdict.**  Each row of the slice names the one before it, the first the row in front of
it in the table. -/
lemma sliceLinkage_intact_iff (rows : List (Row J)) (id : String) :
    (sliceLinkage rows id).intact = true ↔ (auditSlice rows id).IsChain Names ∧
      ∀ first ∈ (auditSlice rows id).head?, first.prevHash = (hashAbove rows first.id).getD "" := by
  rw [← firstBreak_eq_none_iff, sliceLinkage]
  cases hbreak : firstBreak (auditSlice rows id) with
  | some broken => simp
  | none =>
    cases hslice : auditSlice rows id with
    | nil => simp
    | cons first rest =>
      cases habove : hashAbove rows first.id with
      | none => by_cases h : first.prevHash = "" <;> simp [h, habove]
      | some p => by_cases h : first.prevHash = p <;> simp [h, habove]

/-! ## The chain behind the rows -/

def hashColumns (r : Row J) : String × String := (r.prevHash, r.hash)

lemma exists_linked {hf : String → List String → String} : ∀ {p : String} {rows : List (Row J)},
    Chained p rows → (∀ r ∈ rows, ∃ body, r.hash = hf r.prevHash body) →
      ∃ ls, Linked hf p ls ∧ ls.map Link.ends = rows.map hashColumns
  | p, [], _, _ => ⟨[], trivial, rfl⟩
  | p, r :: rows, hch, hbody => by
    obtain ⟨body, hhash⟩ := hbody r (by simp)
    obtain ⟨ls, hls, hends⟩ := exists_linked hch.2 (fun r' hr' => hbody r' (mem_cons_of_mem r hr'))
    refine ⟨⟨body, r.prevHash, r.hash⟩ :: ls, ⟨hch.1, ?_, hls⟩, ?_⟩
    · rw [hhash, hch.1]
    · simp [Link.ends, hashColumns, hends]

/-- The rows are the columns of a hash chain, and their ids increase. -/
structure ChainTable (rows : List (Row J)) : Prop where
  increasing : rows.Pairwise (·.id < ·.id)
  chained : Chained "" rows
  nodup : (rows.map Row.hash).Nodup
  hash_ne : ∀ r ∈ rows, r.hash ≠ ""
  isInfix : ∀ ps : List (String × String), (∀ p ∈ ps, p ∈ rows.map hashColumns) →
    ps.IsChain (fun p q => q.1 = p.2) → ps <:+: rows.map hashColumns

lemma ChainTable.of_run {sha256 : List UInt8 → String} (hinj : Function.Injective sha256)
    (hne : ∀ b, sha256 b ≠ "") {evs : List Event} {db : Db J}
    (hrun : run (step sha256) (Db.empty J) evs = some db) : ChainTable db.rows := by
  have hinv := Inv.of_run hrun
  have laws := fieldsHash_laws hinj hne
  have hbody : ∀ r ∈ db.rows, ∃ body, r.hash = fieldsHash sha256 r.prevHash body := by
    intro r hr
    obtain ⟨i, e, -, hst⟩ := hinv.origin r hr
    exact ⟨payloadFields e, hst.hash⟩
  obtain ⟨ls, hls, hends⟩ := exists_linked hinv.chained hbody
  refine ⟨(Ordered.of_run hrun).increasing, hinv.chained, ?_, ?_, ?_⟩
  · have hhash := congrArg (map Prod.snd) hends
    simp only [List.map_map] at hhash
    have heq : db.rows.map Row.hash = ls.map Link.hash := hhash.symm
    rw [heq]
    exact hls.nodup_hashes laws
  · intro r hr
    obtain ⟨body, hhash⟩ := hbody r hr
    rw [hhash]
    exact laws.ne_genesis _ _
  · intro ps hmem hchain
    rw [← hends] at hmem ⊢
    exact hls.isInfix_ends laws hmem hchain

section Table

variable {rows : List (Row J)} (h : ChainTable rows)
include h

lemma ChainTable.eq_of_hash {r r' : Row J} (hr : r ∈ rows) (hr' : r' ∈ rows)
    (heq : r.hash = r'.hash) : r = r' :=
  inj_on_of_nodup_map h.nodup hr hr' heq

lemma ChainTable.eq_of_columns : ∀ {xs ys : List (Row J)}, (∀ r ∈ xs, r ∈ rows) →
    (∀ r ∈ ys, r ∈ rows) → xs.map hashColumns = ys.map hashColumns → xs = ys
  | [], [], _, _, _ => rfl
  | x :: xs, [], _, _, heq => nomatch heq
  | [], y :: ys, _, _, heq => nomatch heq
  | x :: xs, y :: ys, hxs, hys, heq => by
    rw [map_cons, map_cons, cons.injEq] at heq
    rw [forall_mem_cons] at hxs hys
    rw [h.eq_of_hash hxs.1 hys.1 (congrArg Prod.snd heq.1),
      ChainTable.eq_of_columns hxs.2 hys.2 heq.2]

variable {slice : List (Row J)}

lemma ChainTable.piece_columns (hmem : ∀ r ∈ slice, hashColumns r ∈ rows.map hashColumns)
    (hchain : slice.IsChain Names) : slice.map hashColumns <:+: rows.map hashColumns := by
  refine h.isInfix _ ?_ ((isChain_map hashColumns).mpr hchain)
  intro p hp
  obtain ⟨r, hr, rfl⟩ := mem_map.mp hp
  exact hmem r hr

lemma ChainTable.piece_of_isChain (hmem : ∀ r ∈ slice, r ∈ rows) (hchain : slice.IsChain Names) :
    slice <:+: rows := by
  obtain ⟨pre, post, hsplit⟩ :=
    h.piece_columns (fun r hr => mem_map_of_mem (hmem r hr)) hchain
  obtain ⟨before, back, hrows, hbefore, -⟩ := map_eq_append_iff.mp hsplit.symm
  obtain ⟨front, piece, hfront, -, hpiece⟩ := map_eq_append_iff.mp hbefore
  have heq : piece = slice := by
    refine h.eq_of_columns (fun r hr => ?_) hmem hpiece
    rw [hrows, hfront]
    simp [hr]
  exact ⟨front, back, by rw [hrows, hfront, heq]⟩

omit h in
lemma chained_append : ∀ {p : String} {pre post : List (Row J)},
    Chained p (pre ++ post) ↔ Chained p pre ∧ Chained ((pre.getLast?.map Row.hash).getD p) post
  | p, [], post => by simp [Chained]
  | p, r :: pre, post => by
    rw [cons_append, Chained, chained_append, Chained, getLast?_cons, and_assoc]
    cases pre.getLast? <;> rfl

omit h in
lemma isChain_of_chained : ∀ {p : String} {rows : List (Row J)}, Chained p rows → rows.IsChain Names
  | _, [], _ => isChain_nil
  | _, [r], _ => isChain_singleton r
  | _, _ :: _ :: _, hch =>
    isChain_cons_cons.mpr ⟨hch.2.1, isChain_of_chained hch.2⟩

variable {pre rest : List (Row J)}

lemma ChainTable.filter_above {a : Row J} (hrows : rows = pre ++ a :: rest) (keep : Row J → Bool) :
    (rows.filter keep).filter (·.id < a.id) = pre.filter keep := by
  have hinc := h.increasing
  rw [hrows, pairwise_append] at hinc
  obtain ⟨-, hrest, hcross⟩ := hinc
  have hpre : (pre.filter keep).filter (·.id < a.id) = pre.filter keep := by
    refine filter_eq_self.mpr fun r hr => ?_
    simpa using hcross r (mem_filter.mp hr).1 a (by simp)
  have hbelow : ((a :: rest).filter keep).filter (·.id < a.id) = [] := by
    refine filter_eq_nil_iff.mpr fun r hr => ?_
    rcases mem_cons.mp (mem_filter.mp hr).1 with rfl | hr
    · simp
    · simpa using (rel_of_pairwise_cons hrest hr).le
  rw [hrows, filter_append, filter_append, hpre, hbelow, append_nil]

/-- **The anchor.**  The rows kept end in the hash of all exactly when the last was kept. -/
lemma ChainTable.chainHead_filter_iff (hrows : rows = pre ++ rest) (keep : Row J → Bool) :
    chainHead pre = chainHead (pre.filter keep) ↔ ∀ r ∈ pre.getLast?, keep r := by
  cases pre using reverseRecOn with
  | nil => simp
  | append_singleton init r =>
    simp only [getLast?_append, getLast?_singleton, some_or, mem_def,
      some.injEq, forall_eq', filter_append]
    by_cases hkeep : keep r
    · simp [chainHead, hkeep]
    · have hr : r ∈ rows := by rw [hrows]; simp
      simp only [hkeep, Bool.false_eq_true, iff_false, not_false_eq_true, filter_cons_of_neg,
        filter_nil, append_nil]
      intro heq
      simp only [chainHead, getLast?_append, getLast?_singleton, some_or, map_some,
        getD_some] at heq
      cases hlast : (init.filter keep).getLast? with
      | none =>
        rw [hlast] at heq
        exact h.hash_ne r hr heq
      | some r' =>
        rw [hlast] at heq
        have hr' : r' ∈ init := (mem_filter.mp (mem_of_getLast? hlast)).1
        have heq' : r = r' := h.eq_of_hash hr (by rw [hrows]; simp [hr']) heq
        have hlt := h.increasing
        rw [hrows, pairwise_append, pairwise_append] at hlt
        have := hlt.1.2.2 r' hr' r (by simp)
        rw [heq'] at this
        exact absurd this (lt_irrefl _)

/-- No row of the incident is left, or those left are a gapless piece of the chain and the row in
front of them is left, too. -/
def Unbroken (rows : List (Row J)) (keep : Row J → Bool) (id : String) : Prop :=
  auditSlice (rows.filter keep) id = [] ∨
    ∃ pre post, pre ++ auditSlice (rows.filter keep) id ++ post = rows ∧ ∀ r ∈ pre.getLast?, keep r

/-- The first row of a gapless piece names the row in front exactly if that was kept. -/
lemma ChainTable.anchor_iff {first : Row J} (hrows : rows = pre ++ first :: rest)
    (keep : Row J → Bool) :
    first.prevHash = (hashAbove (rows.filter keep) first.id).getD "" ↔
    ∀ r ∈ pre.getLast?, keep r := by
  have hch := h.chained
  rw [hrows, chained_append] at hch
  rw [hashAbove, h.filter_above hrows keep, hch.2.1]
  exact h.chainHead_filter_iff hrows keep

/-- **The verdict after deletions.** -/
lemma ChainTable.linkage_filter_iff (keep : Row J → Bool) (id : String) :
    (sliceLinkage (rows.filter keep) id).intact = true ↔ Unbroken rows keep id := by
  have hmem : ∀ r ∈ auditSlice (rows.filter keep) id, r ∈ rows := fun r hr =>
    (mem_filter.mp (mem_filter.mp hr).1).1
  rw [sliceLinkage_intact_iff, Unbroken]
  cases hslice : auditSlice (rows.filter keep) id with
  | nil => simp
  | cons first rest =>
    rw [hslice] at hmem
    simp only [head?_cons, mem_def, some.injEq, forall_eq', reduceCtorEq, false_or]
    constructor
    · rintro ⟨hchain, hfirst⟩
      obtain ⟨pre, post, hsplit⟩ := h.piece_of_isChain hmem hchain
      have hrows : rows = pre ++ first :: (rest ++ post) := by rw [← hsplit]; simp
      exact ⟨pre, post, hsplit, (h.anchor_iff hrows keep).mp hfirst⟩
    · rintro ⟨pre, post, hsplit, hkept⟩
      have hrows : rows = pre ++ first :: (rest ++ post) := by rw [← hsplit]; simp
      refine ⟨?_, (h.anchor_iff hrows keep).mpr hkept⟩
      exact IsChain.infix (isChain_of_chained h.chained) ⟨pre, post, hsplit⟩

/-- **The verdict on the table as it is.** -/
lemma ChainTable.intact_iff_isInfix (id : String) :
    (sliceLinkage rows id).intact = true ↔ auditSlice rows id <:+: rows := by
  have hall : rows.filter (fun _ => true) = rows := by simp
  have hiff := h.linkage_filter_iff (fun _ => true) id
  rw [Unbroken, hall] at hiff
  rw [hiff]
  constructor
  · rintro (hnil | ⟨pre, post, hsplit, -⟩)
    · rw [hnil]
      exact nil_infix
    · exact ⟨pre, post, hsplit⟩
  · rintro ⟨pre, post, hsplit⟩
    exact .inr ⟨pre, post, hsplit, fun _ _ => rfl⟩

end Table

/-! ## Rows that change places -/

def atPlaceOf (r s : Row J) : Row J := { r with id := s.id, id_pos := s.id_pos }

/-- Two rows of an entity stand under each other's id. -/
inductive Exchanged (id : String) : List (Row J) → List (Row J) → Prop
  | swap (pre mid post : List (Row J)) (r s : Row J) (hr : r.entityID = id) (hs : s.entityID = id) :
      Exchanged id (pre ++ r :: (mid ++ s :: post))
        (pre ++ atPlaceOf s r :: (mid ++ atPlaceOf r s :: post))

section Table

variable {rows : List (Row J)} (h : ChainTable rows)
include h

/-- Rows in another order do not name one another in a row, as no hash occurs twice. -/
lemma ChainTable.columns_eq_of_perm {left slice : List (Row J)} (hleft : left.Sublist rows)
    (hperm : (slice.map hashColumns).Perm (left.map hashColumns)) (hchain : slice.IsChain Names) :
    slice.map hashColumns = left.map hashColumns := by
  have hsub : (left.map hashColumns).Sublist (rows.map hashColumns) := hleft.map _
  have hnodup : (rows.map hashColumns).Nodup := by
    refine Nodup.of_map Prod.snd ?_
    rw [List.map_map]
    exact h.nodup
  have hmem : ∀ r ∈ slice, hashColumns r ∈ rows.map hashColumns := fun r hr =>
    hsub.subset (hperm.subset (mem_map_of_mem hr))
  exact (hnodup.perm_iff_eq_of_sublist (h.piece_columns hmem hchain).sublist hsub).mp hperm

omit h in
lemma perm_swap_middle {α : Type*} (x y : α) (xs ys : List α) :
    (x :: (xs ++ y :: ys)).Perm (y :: (xs ++ x :: ys)) :=
  calc (x :: (xs ++ y :: ys)).Perm (x :: y :: (xs ++ ys)) := perm_middle.cons x
    _ |>.Perm (y :: x :: (xs ++ ys)) := Perm.swap y x _
    _ |>.Perm (y :: (xs ++ x :: ys)) := perm_middle.symm.cons y

/-- **An exchange is reported**, whatever else was deleted. -/
lemma ChainTable.linkage_exchanged (keep : Row J → Bool) {id : String} {tampered : List (Row J)}
    (hex : Exchanged id (rows.filter keep) tampered) :
    (sliceLinkage tampered id).intact = false := by
  rw [← Bool.not_eq_true, sliceLinkage_intact_iff]
  rintro ⟨hchain, -⟩
  have hsub : (auditSlice (rows.filter keep) id).Sublist rows :=
    filter_sublist.trans filter_sublist
  have hnodup := (hsub.map Row.hash).nodup h.nodup
  generalize rows.filter keep = left at hex hsub hnodup
  obtain ⟨pre, mid, post, r, s, hr, hs⟩ := hex
  have hr' : (atPlaceOf r s).entityID = id := hr
  have hs' : (atPlaceOf s r).entityID = id := hs
  have hbefore : auditSlice (pre ++ r :: (mid ++ s :: post)) id
      = auditSlice pre id ++ r :: (auditSlice mid id ++ s :: auditSlice post id) := by
    simp [auditSlice, hr, hs]
  have hafter : auditSlice (pre ++ atPlaceOf s r :: (mid ++ atPlaceOf r s :: post)) id
      = auditSlice pre id ++ atPlaceOf s r ::
          (auditSlice mid id ++ atPlaceOf r s :: auditSlice post id) := by
    simp [auditSlice, hr', hs']
  rw [hbefore] at hsub hnodup
  rw [hafter] at hchain
  have heq := h.columns_eq_of_perm hsub ?_ hchain
  · -- in the slice both rows have each other's hash now
    simp only [map_append, map_cons, append_cancel_left_eq, cons.injEq] at heq
    have hhash : s.hash = r.hash := congrArg Prod.snd heq.1
    rw [map_append, map_cons, nodup_append] at hnodup
    exact (nodup_cons.mp hnodup.2.1).1 (by simp [hhash])
  · simp only [map_append, map_cons]
    exact (perm_swap_middle _ _ _ _).append_left _

end Table

/-! ## The verdict -/

/-- **What the evidence pack's verdict says**, on every table that appends have built: it is
*intact* exactly when the incident's rows are consecutive; after a deletion it is *not intact*
exactly when some row is left and the deletion is not unbroken; and rows that changed places are
always reported. -/
theorem slice_linkage_verdict {sha256 : List UInt8 → String} (hinj : Function.Injective sha256)
    (hne : ∀ b, sha256 b ≠ "") {evs : List Event} {db : Db J}
    (hrun : run (step sha256) (Db.empty J) evs = some db) (id : String) :
    ((sliceLinkage db.rows id).intact = true ↔ auditSlice db.rows id <:+: db.rows) ∧
      ∀ keep : Row J → Bool,
        ((sliceLinkage (db.rows.filter keep) id).intact = false ↔ ¬ Unbroken db.rows keep id) ∧
        ∀ tampered, Exchanged id (db.rows.filter keep) tampered →
          (sliceLinkage tampered id).intact = false := by
  have h := ChainTable.of_run hinj hne hrun
  refine ⟨h.intact_iff_isInfix id, fun keep =>
    ⟨?_, fun tampered hex => h.linkage_exchanged keep hex⟩⟩
  rw [← h.linkage_filter_iff keep id, Bool.not_eq_true]

/-! ## Two incidents -/

def incidentEntry (action incident : String) : Entry where
  id := 0
  actorSub := "desk-1"
  actorRoles := some ["infra-operator"]
  action := action
  entity := "incident"
  entityID := incident
  before := none
  after := none
  ip := "10.0.0.7"
  ua := "curl/8.5"
  ts := 1700000000000000000
  prevHash := ""
  hash := ""

def twoIncidents : List Entry :=
  [incidentEntry "open" "inc-7", incidentEntry "open" "inc-9", incidentEntry "acknowledge" "inc-9",
    incidentEntry "acknowledge" "inc-7"]

/-- SHA-256 on the chain of these four entries. -/
def incidentDigest : List UInt8 → String :=
  knownDigest [(encodeFields ("" :: payloadFields (incidentEntry "open" "inc-7")),
        "350ba1fe14a3ba2243e2ef728f523cc33887215056abfac2496bad5dd0e49a96"),
      (encodeFields ("350ba1fe14a3ba2243e2ef728f523cc33887215056abfac2496bad5dd0e49a96" ::
          payloadFields (incidentEntry "open" "inc-9")),
        "a79e953e760e8a85ea62de4a0e9a2187432b0a7e3d7e16aca28e817e1c4b164e"),
      (encodeFields ("a79e953e760e8a85ea62de4a0e9a2187432b0a7e3d7e16aca28e817e1c4b164e" ::
          payloadFields (incidentEntry "acknowledge" "inc-9")),
        "05e2249c0cb6eb30a77919defba508c50e76be3eb99ee4fb8fbc77e86c85d2be"),
      (encodeFields ("05e2249c0cb6eb30a77919defba508c50e76be3eb99ee4fb8fbc77e86c85d2be" ::
          payloadFields (incidentEntry "acknowledge" "inc-7")),
        "800d1eb466bdec928561b7067463e45a0ff34c3ef73325dc0d3b5ce0edd7b93f")]

def appendAll (entries : List Entry) : List Event :=
  entries.zipIdx.flatMap fun (e, i) => [.start i e 0, .lock i, .readHead i, .insert i, .commit i]

theorem slice_linkage_verdict_consecutive :
    ∃ db, run (step incidentDigest) (Db.empty boolDocs) (appendAll twoIncidents) = some db ∧
      (sliceLinkage db.rows "inc-9").intact = true ∧ auditSlice db.rows "inc-9" <:+: db.rows ∧
      ¬ Unbroken db.rows (·.id ≠ 2) "inc-9" := by
  obtain ⟨db, hrun, hintact, hbroken⟩ :
      ∃ db, run (step incidentDigest) (Db.empty boolDocs) (appendAll twoIncidents) = some db ∧
        (sliceLinkage db.rows "inc-9").intact = true ∧
        (sliceLinkage (db.rows.filter (·.id ≠ 2)) "inc-9").intact = false := by decide +kernel
  have hinj : Function.Injective incidentDigest :=
    knownDigest_injective (by decide +kernel) (by decide +kernel)
  have hne : ∀ b, incidentDigest b ≠ "" := knownDigest_ne_empty (by decide)
  have hverdict := slice_linkage_verdict hinj hne hrun "inc-9"
  exact ⟨db, hrun, hintact, hverdict.1.mp hintact, (hverdict.2 _).1.mp hbroken⟩

/-- **Both kinds of wrong verdict.**  The untouched table is reported for incident 7; deleting its
rows, or the newer one, is not. -/
theorem interleaved_slice_reported :
    (run (step incidentDigest) (Db.empty boolDocs) (appendAll twoIncidents)).map (fun db =>
      (sliceLinkage db.rows "inc-7", sliceLinkage (db.rows.filter (·.entityID ≠ "inc-7")) "inc-7",
        sliceLinkage (db.rows.filter (·.id ≠ 4)) "inc-7"))
      = some (⟨2, false, some 4⟩, ⟨0, true, none⟩, ⟨1, true, none⟩) := by
  decide +kernel

end H2Fleet.Infra

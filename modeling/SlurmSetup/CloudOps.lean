import SlurmSetup.Basic

/-!
# The ops-agent document edit of `setup_cloud_ops` (`setup.py:565-596`)

The agent's `config.yaml` is kept as the value `yaml.safe_load` returns: mappings are Python
dicts (string keys, insertion order), sequences are lists. When the agent is active,
`setup_cloud_ops` makes three edits (`setup.py:589-591`) and dumps the result with
`sort_keys=False`:

* `file["logging"]["processors"]["add_cluster_info"] = cluster_info` — set in place when the
  key is there, added last otherwise;
* `.append("add_cluster_info")` to the processor lists of `slurmlog_pipeline` and
  `slurmlog2_pipeline`.

Nothing checks whether an earlier run made the same edits: each run appends one more
`"add_cluster_info"` to the two lists (`addClusterInfo_edit`), so the edit never leaves a
document as it was (`addClusterInfo_ne_self`). Everything not on the way to the three edited
places is kept (`addClusterInfo_edit`). YAML aliases (one list shared by two keys) are not
modelled.
-/

namespace SlurmSetup

/-- A YAML value as `yaml.safe_load` gives it. -/
inductive Doc where
  | null
  | bool (b : Bool)
  | int (i : Int)
  | str (s : String)
  | seq (items : List Doc)
  | map (entries : List (String × Doc))
deriving Repr

instance Doc.instNonempty : Nonempty Doc := ⟨.null⟩

namespace Doc

/-- The value at a key path. -/
def get? : Doc → List String → Option Doc
  | d, [] => some d
  | d, k :: ks =>
    match d with
    | map es => (es.lookup k).bind fun v => v.get? ks
    | _ => none

/-- The entries of a mapping with the value of `k` replaced by `v`. -/
def replace (es : List (String × Doc)) (k : String) (v : Doc) : List (String × Doc) :=
  es.map fun e => if e.1 = k then (k, v) else e

/-- `d[k] = v`: in place when `k` is a key, added last otherwise. -/
def setKey (k : String) (v : Doc) : Doc → Except PyError Doc
  | map es => .ok (map (if (es.lookup k).isSome then replace es k v else es ++ [(k, v)]))
  | _ => .error (.typeError "object does not support item assignment")

/-- `l.append(x)`. -/
def append (x : Doc) : Doc → Except PyError Doc
  | seq xs => .ok (seq (xs ++ [x]))
  | _ => .error (.typeError "object has no attribute 'append'")

/-- `d[k1][k2]...` changed by `f`, each mapping updated in place. -/
def modifyAt (f : Doc → Except PyError Doc) : Doc → List String → Except PyError Doc
  | d, [] => f d
  | d, k :: ks =>
    match d with
    | map es =>
      match es.lookup k with
      | some v => (v.modifyAt f ks).map fun v' => map (replace es k v')
      | none => .error (.keyError k)
    | _ => .error (.typeError "object is not subscriptable")

/-! ## Path lemmas -/

variable {f : Doc → Except PyError Doc}

theorem lookup_replace {es : List (String × Doc)} {k j : String} {v : Doc} :
    (replace es k v).lookup j = if j = k then (es.lookup k).map fun _ => v else es.lookup j :=
  lookup_map_replace

theorem get?_append : ∀ (d : Doc) (p r : List String), d.get? (p ++ r) = (d.get? p).bind fun v => v.get? r
  | d, [], r => rfl
  | d, k :: p, r => by
    cases d with
    | map es =>
      simp only [List.cons_append, get?]
      cases es.lookup k with
      | none => rfl
      | some v => exact get?_append v p r
    | _ => rfl

/-- What one step of `modifyAt` does. -/
theorem modifyAt_cons_eq_ok {d d' : Doc} {k : String} {ks : List String} :
    d.modifyAt f (k :: ks) = .ok d' ↔
      ∃ es v v', d = map es ∧ es.lookup k = some v ∧ v.modifyAt f ks = .ok v' ∧
        d' = map (replace es k v') := by
  cases d with
  | map es =>
    cases hl : es.lookup k with
    | none => simp [modifyAt, hl]
    | some v =>
      cases hv : v.modifyAt f ks with
      | error e => simp [modifyAt, hl, hv, Except.map]
      | ok w => simp [modifyAt, hl, hv, Except.map, eq_comm]
  | _ => simp [modifyAt]

/-- Outside the path it changes, `modifyAt` keeps every value. -/
theorem get?_modifyAt_of_disjoint :
    ∀ {d d' : Doc} {p q : List String}, d.modifyAt f p = .ok d' → ¬ p <+: q → ¬ q <+: p →
      d'.get? q = d.get? q
  | _, _, [], _, _, h, _ => absurd List.nil_prefix h
  | _, _, _ :: _, [], _, _, h => absurd List.nil_prefix h
  | d, d', k :: ks, j :: r, h, hpq, hqp => by
    obtain ⟨es, v, v', rfl, hl, hv, rfl⟩ := modifyAt_cons_eq_ok.1 h
    by_cases hj : j = k
    · subst hj
      simp only [get?, lookup_replace, if_true, hl, Option.map_some', Option.some_bind]
      exact get?_modifyAt_of_disjoint hv (fun h' => hpq ((List.prefix_cons_inj _).2 h'))
        fun h' => hqp ((List.prefix_cons_inj _).2 h')
    · simp [get?, lookup_replace, hj]

/-- At and below the path it changes, `modifyAt` leaves `f` of the old value. -/
theorem get?_modifyAt_below :
    ∀ {d d' : Doc} {p : List String}, d.modifyAt f p = .ok d' →
      ∃ v v', d.get? p = some v ∧ f v = .ok v' ∧ ∀ r, d'.get? (p ++ r) = v'.get? r
  | d, d', [], h => ⟨d, d', rfl, h, fun _ => rfl⟩
  | d, d', k :: ks, h => by
    obtain ⟨es, v, v', rfl, hl, hv, rfl⟩ := modifyAt_cons_eq_ok.1 h
    obtain ⟨w, w', hw, hfw, hr⟩ := get?_modifyAt_below hv
    refine ⟨w, w', by simpa [get?, hl] using hw, hfw, fun r => ?_⟩
    simpa [get?, lookup_replace, hl] using hr r

/-- `modifyAt` succeeds where the path leads through mappings to a value `f` accepts. -/
theorem modifyAt_of_get? {v v' : Doc} (hf : f v = .ok v') :
    ∀ {d : Doc} {p : List String}, d.get? p = some v → ∃ d', d.modifyAt f p = .ok d'
  | d, [], h => by cases h; exact ⟨_, hf⟩
  | d, k :: ks, h => by
    cases d with
    | map es =>
      simp only [get?] at h
      cases hl : es.lookup k with
      | none => simp [hl] at h
      | some w =>
        rw [hl, Option.some_bind] at h
        obtain ⟨w', hw⟩ := modifyAt_of_get? hf h
        exact ⟨_, modifyAt_cons_eq_ok.2 ⟨es, w, w', rfl, hl, hw, rfl⟩⟩
    | _ => simp [get?] at h

/-- Where the path leads to `v` and `f v = .ok v'`, `modifyAt` succeeds and leaves `v'` there. -/
theorem modifyAt_at {v v' : Doc} (hf : f v = .ok v') {d : Doc} {p : List String} (h : d.get? p = some v) :
    ∃ d', d.modifyAt f p = .ok d' ∧ ∀ r, d'.get? (p ++ r) = v'.get? r := by
  obtain ⟨d', e⟩ := modifyAt_of_get? hf h
  obtain ⟨w, w', hw, hfw, hr⟩ := get?_modifyAt_below e
  rw [h] at hw; cases hw; rw [hf] at hfw; cases hfw
  exact ⟨d', e, hr⟩

theorem setKey_map (k : String) (v : Doc) (es : List (String × Doc)) :
    ∃ es', setKey k v (map es) = .ok (map es') ∧ es'.lookup k = some v ∧
      ∀ j, j ≠ k → es'.lookup j = es.lookup j := by
  refine ⟨_, rfl, ?_, fun j hj => ?_⟩
  · split
    · rename_i h
      obtain ⟨w, hw⟩ := Option.isSome_iff_exists.1 h
      simp [lookup_replace, hw]
    · rename_i h
      simp only [Option.not_isSome_iff_eq_none] at h
      rw [lookup_append_of_none h, List.lookup_cons_self]
  · split
    · simp [lookup_replace, hj]
    · cases hl : es.lookup j with
      | none => rw [lookup_append_of_none hl, lookup_cons_ne hj]; rfl
      | some _ => exact lookup_append_of_some hl

end Doc

/-- `cluster_info` (`setup.py:577-587`). -/
def clusterInfo (clusterName hostname : String) : Doc :=
  .map [("type", .str "modify_fields"),
    ("fields", .map [
      ("labels.\"cluster_name\"", .map [("static_value", .str clusterName)]),
      ("labels.\"hostname\"", .map [("static_value", .str hostname)])])]

/-- `file["logging"]["processors"]` -/
def processorsPath : List String := ["logging", "processors"]

/-- `file["logging"]["service"]["pipelines"][pipe]["processors"]` -/
def pipelineProcessorsPath (pipe : String) : List String :=
  ["logging", "service", "pipelines", pipe, "processors"]

/-- The three edits of `setup_cloud_ops` (`setup.py:589-591`). -/
def addClusterInfo (info : Doc) (d : Doc) : Except PyError Doc := do
  let d ← d.modifyAt (Doc.setKey "add_cluster_info" info) processorsPath
  let d ← d.modifyAt (Doc.append (.str "add_cluster_info")) (pipelineProcessorsPath "slurmlog_pipeline")
  d.modifyAt (Doc.append (.str "add_cluster_info")) (pipelineProcessorsPath "slurmlog2_pipeline")

/-! ## What the edit does -/

section
variable {info : Doc}

/-- The three places the edit touches are apart from each other and from `processorsPath`. -/
theorem editPaths_apart :
    (¬ processorsPath <+: pipelineProcessorsPath "slurmlog_pipeline" ∧
      ¬ pipelineProcessorsPath "slurmlog_pipeline" <+: processorsPath) ∧
    (¬ processorsPath <+: pipelineProcessorsPath "slurmlog2_pipeline" ∧
      ¬ pipelineProcessorsPath "slurmlog2_pipeline" <+: processorsPath) ∧
    (¬ pipelineProcessorsPath "slurmlog_pipeline" <+: pipelineProcessorsPath "slurmlog2_pipeline" ∧
      ¬ pipelineProcessorsPath "slurmlog2_pipeline" <+: pipelineProcessorsPath "slurmlog_pipeline") ∧
    (¬ pipelineProcessorsPath "slurmlog_pipeline" <+: processorsPath ++ ["add_cluster_info"] ∧
      ¬ processorsPath ++ ["add_cluster_info"] <+: pipelineProcessorsPath "slurmlog_pipeline") ∧
    (¬ pipelineProcessorsPath "slurmlog2_pipeline" <+: processorsPath ++ ["add_cluster_info"] ∧
      ¬ processorsPath ++ ["add_cluster_info"] <+: pipelineProcessorsPath "slurmlog2_pipeline") := by
  decide

/-- One run of the edit on a document with `logging.processors` and the two pipelines'
processor lists: it succeeds, sets `logging.processors.add_cluster_info`, appends one
`"add_cluster_info"` to each list after its entries, and keeps every value not on the way to
these three places. -/
theorem addClusterInfo_edit (info : Doc) {d : Doc} {ps : List (String × Doc)} {l1 l2 : List Doc}
    (hp : d.get? processorsPath = some (.map ps))
    (h1 : d.get? (pipelineProcessorsPath "slurmlog_pipeline") = some (.seq l1))
    (h2 : d.get? (pipelineProcessorsPath "slurmlog2_pipeline") = some (.seq l2)) :
    ∃ d', addClusterInfo info d = .ok d' ∧
      (∃ ps', d'.get? processorsPath = some (.map ps')) ∧
      d'.get? (processorsPath ++ ["add_cluster_info"]) = some info ∧
      d'.get? (pipelineProcessorsPath "slurmlog_pipeline") = some (.seq (l1 ++ [.str "add_cluster_info"])) ∧
      d'.get? (pipelineProcessorsPath "slurmlog2_pipeline") = some (.seq (l2 ++ [.str "add_cluster_info"])) ∧
      ∀ q, (∀ e ∈ [processorsPath ++ ["add_cluster_info"], pipelineProcessorsPath "slurmlog_pipeline",
          pipelineProcessorsPath "slurmlog2_pipeline"], ¬ e <+: q ∧ ¬ q <+: e) →
        d'.get? q = d.get? q := by
  obtain ⟨⟨a01, a10⟩, ⟨a02, a20⟩, ⟨a12, a21⟩, ⟨b1, b1'⟩, ⟨b2, b2'⟩⟩ := editPaths_apart
  obtain ⟨ps', hset, hk, hj⟩ := Doc.setKey_map "add_cluster_info" info ps
  -- `logging.processors["add_cluster_info"] = cluster_info`
  obtain ⟨d1, e1, hb1⟩ := Doc.modifyAt_at hset hp
  -- the two `append`s
  have h1' := (Doc.get?_modifyAt_of_disjoint e1 a01 a10).trans h1
  obtain ⟨d2, e2, hb2⟩ := Doc.modifyAt_at
    (show Doc.append (.str "add_cluster_info") (.seq l1) = .ok (.seq (l1 ++ [.str "add_cluster_info"])) from rfl) h1'
  have h2' := ((Doc.get?_modifyAt_of_disjoint e2 a12 a21).trans
    (Doc.get?_modifyAt_of_disjoint e1 a02 a20)).trans h2
  obtain ⟨d3, e3, hb3⟩ := Doc.modifyAt_at
    (show Doc.append (.str "add_cluster_info") (.seq l2) = .ok (.seq (l2 ++ [.str "add_cluster_info"])) from rfl) h2'
  have f3 := fun {q} => Doc.get?_modifyAt_of_disjoint (q := q) e3
  have f2 := fun {q} => Doc.get?_modifyAt_of_disjoint (q := q) e2
  have f1 := fun {q} => Doc.get?_modifyAt_of_disjoint (q := q) e1
  refine ⟨d3, by simp [addClusterInfo, e1, e2, e3, bind, Except.bind], ⟨ps', ?_⟩, ?_, ?_, ?_, ?_⟩
  · rw [f3 a20 a02, f2 a10 a01]; simpa using hb1 []
  · rw [f3 b2 b2', f2 b1 b1']; simpa [Doc.get?, hk] using hb1 ["add_cluster_info"]
  · rw [f3 a21 a12]; simpa using hb2 []
  · simpa using hb3 []
  · intro q hq
    simp only [List.mem_cons, List.mem_singleton, List.not_mem_nil, or_false, forall_eq_or_imp,
      forall_eq] at hq
    obtain ⟨⟨c0, c0'⟩, ⟨c1, c1'⟩, ⟨c2, c2'⟩⟩ := hq
    rw [f3 c2 c2', f2 c1 c1']
    by_cases hpq : processorsPath <+: q
    · obtain ⟨r, rfl⟩ := hpq
      cases r with
      | nil => simp at c0'
      | cons j r =>
        have hj' : j ≠ "add_cluster_info" := by
          rintro rfl; exact c0 (by simp [List.prefix_append_right_inj])
        rw [hb1, Doc.get?_append, hp]
        simp [Doc.get?, hj _ hj']
    · refine f1 hpq fun hqp => c0' (hqp.trans (List.prefix_append _ _))

/-- The edit succeeds exactly on documents with the three places, of the right types. -/
theorem addClusterInfo_shape {d d' : Doc} (h : addClusterInfo info d = .ok d') :
    (∃ ps, d.get? processorsPath = some (.map ps)) ∧
    (∃ l, d.get? (pipelineProcessorsPath "slurmlog_pipeline") = some (.seq l)) ∧
    (∃ l, d.get? (pipelineProcessorsPath "slurmlog2_pipeline") = some (.seq l)) := by
  obtain ⟨⟨a01, a10⟩, ⟨a02, a20⟩, ⟨a12, a21⟩, -⟩ := editPaths_apart
  simp only [addClusterInfo, bind, Except.bind] at h
  split at h; · cases h
  rename_i d1 e1
  split at h; · cases h
  rename_i d2 e2
  obtain ⟨v0, v0', hv0, hfv0, -⟩ := Doc.get?_modifyAt_below e1
  obtain ⟨v1, v1', hv1, hfv1, -⟩ := Doc.get?_modifyAt_below e2
  obtain ⟨v2, v2', hv2, hfv2, -⟩ := Doc.get?_modifyAt_below h
  rw [Doc.get?_modifyAt_of_disjoint e1 a01 a10] at hv1
  rw [Doc.get?_modifyAt_of_disjoint e2 a12 a21, Doc.get?_modifyAt_of_disjoint e1 a02 a20] at hv2
  refine ⟨?_, ?_, ?_⟩
  · cases v0 <;> first | exact ⟨_, hv0⟩ | cases hfv0
  · cases v1 <;> first | exact ⟨_, hv1⟩ | cases hfv1
  · cases v2 <;> first | exact ⟨_, hv2⟩ | cases hfv2

/-- The edit never leaves a document as it was: the first list always grows. -/
theorem addClusterInfo_ne_self (info d : Doc) : addClusterInfo info d ≠ .ok d := by
  intro h'
  obtain ⟨⟨ps, hp⟩, ⟨l1, h1⟩, ⟨l2, h2⟩⟩ := addClusterInfo_shape h'
  obtain ⟨d'', e, -, -, hl1, -⟩ := addClusterInfo_edit info hp h1 h2
  rw [h'] at e; cases e
  rw [h1] at hl1
  injection hl1 with hl1
  injection hl1 with hl1
  simpa using congrArg List.length hl1

/-- **The edit of `setup_cloud_ops`**: one run on a document with `logging.processors` and the
two processor lists succeeds, sets `logging.processors.add_cluster_info`, appends one
`"add_cluster_info"` to each list and keeps every value not on the way to these three places;
and a second run changes the result again. -/
theorem addClusterInfo_spec (info : Doc) {d : Doc} {ps : List (String × Doc)} {l1 l2 : List Doc}
    (hp : d.get? processorsPath = some (.map ps))
    (h1 : d.get? (pipelineProcessorsPath "slurmlog_pipeline") = some (.seq l1))
    (h2 : d.get? (pipelineProcessorsPath "slurmlog2_pipeline") = some (.seq l2)) :
    ∃ d', addClusterInfo info d = .ok d' ∧
      d'.get? (processorsPath ++ ["add_cluster_info"]) = some info ∧
      d'.get? (pipelineProcessorsPath "slurmlog_pipeline") = some (.seq (l1 ++ [.str "add_cluster_info"])) ∧
      d'.get? (pipelineProcessorsPath "slurmlog2_pipeline") = some (.seq (l2 ++ [.str "add_cluster_info"])) ∧
      (∀ q, (∀ e ∈ [processorsPath ++ ["add_cluster_info"], pipelineProcessorsPath "slurmlog_pipeline",
          pipelineProcessorsPath "slurmlog2_pipeline"], ¬ e <+: q ∧ ¬ q <+: e) →
        d'.get? q = d.get? q) ∧
      addClusterInfo info d' ≠ .ok d' := by
  obtain ⟨d', e, -, h0, hl1, hl2, hq⟩ := addClusterInfo_edit info hp h1 h2
  exact ⟨d', e, h0, hl1, hl2, hq, addClusterInfo_ne_self info d'⟩

end

/-- An ops-agent document with the two pipelines and nothing else. -/
def opsDoc : Doc :=
  .map [("logging", .map [("processors", .map []), ("service", .map [("pipelines", .map [
    ("slurmlog_pipeline", .map [("processors", .seq [])]),
    ("slurmlog2_pipeline", .map [("processors", .seq [])])])])])]

theorem addClusterInfo_spec_opsDoc :
    ∃ d', addClusterInfo (clusterInfo "c" "h") opsDoc = .ok d' ∧
      d'.get? (processorsPath ++ ["add_cluster_info"]) = some (clusterInfo "c" "h") ∧
      d'.get? (pipelineProcessorsPath "slurmlog_pipeline") = some (.seq ([] ++ [.str "add_cluster_info"])) ∧
      d'.get? (pipelineProcessorsPath "slurmlog2_pipeline") = some (.seq ([] ++ [.str "add_cluster_info"])) ∧
      (∀ q, (∀ e ∈ [processorsPath ++ ["add_cluster_info"], pipelineProcessorsPath "slurmlog_pipeline",
          pipelineProcessorsPath "slurmlog2_pipeline"], ¬ e <+: q ∧ ¬ q <+: e) →
        d'.get? q = opsDoc.get? q) ∧
      addClusterInfo (clusterInfo "c" "h") d' ≠ .ok d' :=
  addClusterInfo_spec (clusterInfo "c" "h") rfl rfl rfl

/-- Running the edit a second time on `opsDoc` does not give back the first result. -/
theorem addClusterInfo_twice_opsDoc :
    (addClusterInfo (clusterInfo "c" "h") opsDoc >>= addClusterInfo (clusterInfo "c" "h")) ≠
      addClusterInfo (clusterInfo "c" "h") opsDoc := by
  obtain ⟨d1, h1⟩ : ∃ d1, addClusterInfo (clusterInfo "c" "h") opsDoc = .ok d1 := ⟨_, rfl⟩
  rw [h1]
  exact addClusterInfo_ne_self _ d1

end SlurmSetup

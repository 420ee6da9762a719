import LinkedControls.Proofs.Pattern.Transfer
import LinkedControls.Proofs.Query.Modes
import LinkedControls.Proofs.Query.Segments
import LinkedControls.Proofs.Value.Reading

/-!
What is handed to the executor of queries. A query with errors is held back if the settings say so, and a
reference that stands for a number that is not finite is an error. The bounds of a range that is bound as
a whole are not looked at.
-/

namespace LinkedControls

open Template Safety

namespace Safety

theorem foldl_distinct_eq_nil {messages seen : List String} :
    messages.foldl (fun seen m => if seen.contains m then seen else seen ++ [m]) seen = [] ↔
      seen = [] ∧ messages = [] := by
  induction messages generalizing seen with
  | nil => simp
  | cons m messages ih =>
    rw [List.foldl_cons, ih]
    split
    next hm =>
      have hne : seen ≠ [] := List.ne_nil_of_mem (List.contains_iff_mem.mp hm)
      simp [hne]
    next => simp

theorem nonFiniteErrors_eq_nil_iff {os : List Occurrence} {s : Snapshot} :
    nonFiniteErrors os s = [] ↔
      ∀ o ∈ os, ∀ x, o.reference.resolve? s = some (.number x) → x.isFinite = true := by
  rw [nonFiniteErrors, foldl_distinct_eq_nil, List.filterMap_eq_nil_iff]
  simp only [true_and]
  refine forall₂_congr fun o _ => ?_
  cases o.reference.resolve? s with
  | none => simp
  | some v => cases v <;> simp

end Safety

namespace Value

theorem part_ne_numberRange (v : Value) (path : String) (range : Range Decimal.Binary64) :
    v.part path ≠ .numberRange range := by
  have hbound {α : Type} {form : α → Value} (h : ∀ a, form a ≠ .numberRange range) (b : Option α) :
      ofBound form b ≠ .numberRange range :=
    ofBound_cases (P := (· ≠ .numberRange range)) (by simp) fun a _ => h a
  unfold part
  cases v with
  | numberRange r =>
    dsimp only
    split_ifs
    exacts [hbound (by simp) r.lower, hbound (by simp) r.upper, by simp]
  | dateRange r =>
    dsimp only
    split_ifs
    exacts [hbound (by simp) r.lower, hbound (by simp) r.upper, by simp]
  | list items => dsimp only; split <;> simp
  | text t => dsimp only; split <;> simp
  | _ => simp

theorem isFinite_iff {v : Value} :
    v.isFinite = true ↔ (∀ x, v = .number x → x.isFinite = true) ∧
      ∀ range, v = .numberRange range → (numberRange range).isFinite = true := by
  cases v <;> simp [isFinite]

end Value

theorem Reference.resolve?_of_path_eq_none {r : Reference} (h : r.path = none) (s : Snapshot) :
    r.resolve? s = s.value? r.control := by
  obtain ⟨control, path⟩ := r
  obtain rfl : path = none := h
  unfold resolve? Snapshot.value?
  cases s.get? control <;> rfl

theorem Reference.resolve?_eq_numberRange_iff {r : Reference} {s : Snapshot}
    {range : Range Decimal.Binary64} :
    r.resolve? s = some (.numberRange range) ↔
      r.path = none ∧ s.value? r.control = some (.numberRange range) := by
  cases hpath : r.path with
  | none => simp [resolve?_of_path_eq_none hpath]
  | some path =>
    have hpart : r.resolve? s ≠ some (.numberRange range) := by
      unfold resolve?
      cases s.get? r.control with
      | none => simp
      | some c =>
        simp only [hpath]
        intro h
        change (if _ then some _ else none) = _ at h
        split at h
        · exact c.value.part_ne_numberRange path range (Option.some.inj h)
        · cases h
    simp [hpart]

namespace Template

theorem parameters_finite_iff {template : List Char} {lead : String} {s : Snapshot} :
    (∀ p ∈ parameters template lead s, p.2.isFinite = true) ↔
      ∀ r ∈ references template, ∀ v, r.resolve? s = some v → v.isFinite = true := by
  have hbinds := binds_bindings template lead
  constructor
  · intro h r hr v hv
    obtain ⟨b, -, hb, rfl⟩ := hbinds.exists_binding hr
    have hmem := h _ ((parameters_perm template lead s).mem_iff.mpr (List.mem_map.mpr ⟨b, hb, rfl⟩))
    rwa [hv] at hmem
  · intro h p hp
    obtain ⟨b, hb, rfl⟩ := List.mem_map.mp ((parameters_perm template lead s).mem_iff.mp hp)
    have hr : b.reference ∈ references template :=
      (hbinds.mem_iff _).mp (List.mem_map.mpr ⟨b, hb, rfl⟩)
    cases hv : b.reference.resolve? s with
    | none => rfl
    | some v => exact h _ hr v hv

end Template

namespace Safety

variable {sql : List Char}

theorem injectionErrors_eq_nil
    (h : ∀ entry ∈ injections, entry.1.needs (fun set => !sql.any set.holds) = true) :
    injectionErrors sql = [] := by
  refine List.flatMap_eq_nil_iff.mpr fun entry hentry => if_neg ?_
  rw [Bool.not_eq_true]
  exact Pattern.isIn_eq_false_of_needs (h entry hentry) (by simp)

theorem stackedMutation?_eq_none (h : sql.any (CharSet.single ';').holds = false) :
    stackedMutation? sql = none := by
  refine List.findSome?_eq_none_iff.mpr fun a ha => ?_
  rw [Option.map_eq_none_iff, List.find?_eq_none]
  intro entry hentry hmatches
  obtain ⟨keyword, -, rfl⟩ := List.mem_map.mp hentry
  obtain ⟨b, hb⟩ := Pattern.matchesAt_iff.mp hmatches
  have hneeds : (stacked keyword).needs (fun set => !sql.any set.holds) = true := by
    simp [stacked, Pattern.sequences, Pattern.exact, Pattern.needs, h]
  obtain ⟨set, hset, c, hc, hholds⟩ := hb.exists_of_needs hneeds (Place.rest_suffix ha)
  simp only [Bool.not_eq_true', List.any_eq_false] at hset
  exact hset c hc hholds

theorem isIn_startsWithSelect
    (h : (Pattern.sequence (Pattern.word "select") Pattern.boundary).matchesAt ⟨0, none, sql⟩ = true) :
    startsWithSelect.isIn sql = true := by
  obtain ⟨b, hb⟩ := Pattern.matchesAt_iff.mp h
  have hstart : ⟨0, none, sql⟩ ∈ Place.all sql := by cases sql <;> exact List.mem_cons_self
  exact Pattern.isIn_iff.mpr
    ⟨_, hstart, b, _, ⟨rfl, rfl⟩, _, ⟨0, Nat.le_refl _, by simp, .zero _⟩, hb⟩

end Safety

namespace Query

variable {template : List Char} {s : Snapshot} {settings : QuerySettings} {mode : QueryMode}
  {query : Query} {report : Report} {α : Type}

theorem run_of_error {e : QueryError} (h : prepare template s settings mode = .error e)
    (execute : Executor α) : run execute template s settings mode = .error e := by
  rw [run, h]
  rfl

theorem run_of_ok (h : prepare template s settings mode = .ok (query, report))
    (execute : Executor α) :
    run execute template s settings mode =
      match execute query with
      | (_, .ok records) => .ok ⟨query, report, records⟩
      | (elapsed, .error message) => .error (.execution message elapsed) := by
  rw [run, h]
  rfl

/-- Running the template asks the executor for the query: what comes out depends on its answer to it. -/
def Consults (template : List Char) (s : Snapshot) (settings : QuerySettings) (mode : QueryMode)
    (query : Query) : Prop :=
  ∃ execute execute' : Executor Unit, (∀ q, q ≠ query → execute q = execute' q) ∧
    run execute template s settings mode ≠ run execute' template s settings mode

theorem consults_iff :
    Consults template s settings mode query ↔
      ∃ report, prepare template s settings mode = .ok (query, report) := by
  constructor
  · rintro ⟨execute, execute', hagree, hne⟩
    cases hprepare : prepare template s settings mode with
    | error e => exact absurd (by rw [run_of_error hprepare, run_of_error hprepare]) hne
    | ok prepared =>
      obtain ⟨q, report⟩ := prepared
      by_cases hq : q = query
      · exact ⟨report, by rw [hq]⟩
      · exact absurd (by rw [run_of_ok hprepare, run_of_ok hprepare, hagree q hq]) hne
  · rintro ⟨report, hprepare⟩
    -- two executors that fail on the query after different times
    refine ⟨fun _ => (0, .error ""), fun q => (if q = query then 1 else 0, .error ""),
      fun q hq => Prod.ext (if_neg hq).symm rfl, fun hsame => ?_⟩
    have htimes := (run_of_ok hprepare _).symm.trans (hsame.trans (run_of_ok hprepare _))
    simp at htimes

theorem prepare_eq_ok_iff :
    prepare template s settings mode = .ok (query, report) ↔
      query = ofTemplate template s settings mode ∧
        report = checkFilled template query.sql s ∧
          (settings.blockInvalid = true → report.isValid = true) := by
  unfold prepare
  dsimp only
  split
  next hblocked =>
    refine ⟨fun h => absurd h (by simp), ?_⟩
    rintro ⟨rfl, rfl, hvalid⟩
    simp only [Bool.and_eq_true, Bool.not_eq_true'] at hblocked
    rw [hvalid hblocked.1] at hblocked
    cases hblocked.2
  next hfree =>
    simp only [Except.ok.injEq, Prod.mk.injEq]
    constructor
    · rintro ⟨rfl, rfl⟩
      exact ⟨rfl, rfl, fun hblock => by simpa [hblock] using hfree⟩
    · rintro ⟨rfl, rfl, -⟩
      exact ⟨rfl, rfl⟩

theorem executed_finite_iff (hblock : settings.blockInvalid = true)
    (h : Consults template s settings mode query) :
    (∀ r ∈ references template, ∀ x, r.resolve? s = some (.number x) → x.isFinite = true) ∧
    ((∀ p ∈ query.parameters, p.2.isFinite = true) ↔
      mode = .literal ∨ ∀ r ∈ references template, r.path = none →
        ∀ range, s.value? r.control = some (.numberRange range) →
          (Value.numberRange range).isFinite = true) := by
  obtain ⟨report, hprepare⟩ := consults_iff.mp h
  obtain ⟨rfl, rfl, hvalid⟩ := prepare_eq_ok_iff.mp hprepare
  have hnumbers : ∀ r ∈ references template, ∀ x, r.resolve? s = some (.number x) →
      x.isFinite = true := by
    have hnil := (List.append_eq_nil_iff.mp (List.isEmpty_iff.mp (hvalid hblock))).2
    intro r hr
    obtain ⟨o, ho, rfl⟩ := List.mem_map.mp hr
    exact nonFiniteErrors_eq_nil_iff.mp hnil o ho
  refine ⟨hnumbers, ?_⟩
  cases mode with
  | literal => simp [ofTemplate]
  | parameterized =>
    rw [ofTemplate, parameters_finite_iff]
    simp only [reduceCtorEq, false_or]
    refine forall₂_congr fun r hr => ?_
    constructor
    · intro h hpath range hrange
      exact h _ (Reference.resolve?_eq_numberRange_iff.mpr ⟨hpath, hrange⟩)
    · intro h v hv
      refine Value.isFinite_iff.mpr ⟨fun x hx => hnumbers r hr x (hx ▸ hv), fun range hrange => ?_⟩
      obtain ⟨hpath, hvalue⟩ := Reference.resolve?_eq_numberRange_iff.mp (hrange ▸ hv)
      exact h hpath range hvalue

def gauge : Value := .numberRange ⟨some .nan, none⟩

def gaugeSnapshot : Snapshot := ⟨[⟨"r", .numberRange, gauge⟩], 0⟩

def gaugeTemplate : List Char := "SELECT ${r} FROM t".toList

def gaugeQuery : Query := ⟨"SELECT :p_r FROM t".toList, [("p_r", gauge)]⟩

theorem errors_check_gaugeQuery : (check gaugeQuery.sql).errors = [] := by
  have hmask : mask gaugeQuery.sql = some gaugeQuery.sql := by decide +kernel
  have hinjection : injectionErrors gaugeQuery.sql = [] := injectionErrors_eq_nil (by decide +kernel)
  have hstacked : stackedMutation? gaugeQuery.sql = none :=
    stackedMutation?_eq_none (by decide +kernel)
  have hselect : startsWithSelect.isIn gaugeQuery.sql = true := isIn_startsWithSelect (by decide +kernel)
  have hfrom : hasFrom.isIn gaugeQuery.sql = true := by decide +kernel
  have hunion : unionSelect.isIn gaugeQuery.sql = false :=
    Pattern.isIn_eq_false_of_needs (f := fun set => !gaugeQuery.sql.any set.holds) (by decide +kernel)
      (by simp)
  have hblank : gaugeQuery.sql.all Text.isBlank = false := by decide +kernel
  have hbalanced : isBalanced gaugeQuery.sql = true := by decide +kernel
  have hcomments : ∀ mark ∈ commentMarks, Text.contains mark.toList gaugeQuery.sql = false := by
    decide +kernel
  simpa [check, hmask, hinjection, startErrors, hblank, hselect, shapeErrors, hfrom, hbalanced,
    hstacked, hunion, when] using hcomments

theorem segments_gaugeTemplate : segments gaugeTemplate =
    ("SELECT ".toList.map fun c => .text [c]) ++
      .reference ⟨"r", none⟩ ['r'] :: " FROM t".toList.map fun c => .text [c] := by
  have hcut : gaugeTemplate =
      "SELECT ".toList ++ ('$' :: '\x7b' :: 'r' :: '\x7d' :: (" FROM t".toList ++ [])) := rfl
  rw [hcut, segments_append (by decide), segments_of_braced rfl, segments_append (by decide),
    segments_nil, List.append_nil]
  rfl

theorem occurrences_gaugeTemplate :
    occurrences gaugeTemplate = [⟨⟨"r", none⟩, "${r}".toList, 7⟩] := by
  rw [occurrences, segments_gaugeTemplate]
  rfl

theorem ofTemplate_gauge :
    ofTemplate gaugeTemplate gaugeSnapshot .default .parameterized = gaugeQuery := by
  have hbindings : bindings gaugeTemplate "p" = [⟨⟨"r", none⟩, "p_r"⟩] := by
    rw [bindings, references, occurrences_gaugeTemplate]
    decide +kernel
  simp only [ofTemplate, parameterize, Template.parameters, QuerySettings.default, defaultPlaceholder,
    hbindings, fill, segments_gaugeTemplate]
  rfl

theorem consults_gauge :
    Consults gaugeTemplate gaugeSnapshot .default .parameterized gaugeQuery := by
  have hnumbers : nonFiniteErrors (occurrences gaugeTemplate) gaugeSnapshot = [] := by
    rw [occurrences_gaugeTemplate]
    rfl
  refine consults_iff.mpr ⟨_, prepare_eq_ok_iff.mpr ⟨ofTemplate_gauge.symm, rfl, fun _ => ?_⟩⟩
  exact List.isEmpty_iff.mpr (List.append_eq_nil_iff.mpr ⟨errors_check_gaugeQuery, hnumbers⟩)

theorem executed_finite_iff_gauge :
    QuerySettings.default.blockInvalid = true ∧
    Consults gaugeTemplate gaugeSnapshot .default .parameterized gaugeQuery ∧
    (∀ r ∈ references gaugeTemplate, ∀ x, r.resolve? gaugeSnapshot = some (.number x) →
      x.isFinite = true) ∧
    ((∀ p ∈ gaugeQuery.parameters, p.2.isFinite = true) ↔
      QueryMode.parameterized = .literal ∨ ∀ r ∈ references gaugeTemplate, r.path = none →
        ∀ range, gaugeSnapshot.value? r.control = some (.numberRange range) →
          (Value.numberRange range).isFinite = true) :=
  ⟨rfl, consults_gauge, executed_finite_iff rfl consults_gauge⟩

theorem gauge_reaches_executor :
    QuerySettings.default.blockInvalid = true ∧
    Consults gaugeTemplate gaugeSnapshot .default .parameterized gaugeQuery ∧
    ("p_r", gauge) ∈ gaugeQuery.parameters ∧ gauge.isFinite = false :=
  ⟨rfl, consults_gauge, List.mem_cons_self, rfl⟩

end Query

end LinkedControls

import Mathlib.Data.Finset.Card
import TurnLedger.Classify.RuleSet
import TurnLedger.Proofs.IngestNormalForm
import TurnLedger.Proofs.KeywordMatch
import TurnLedger.Proofs.SummaryTotals

/-!
# What compiling a rule file guarantees

A compiled category rule holds its tools and keywords trimmed, lowercased, sorted and distinct,
blanks dropped, with one keyword for each distinct normalized keyword of the file: a phrase when
it has a blank inside, a word otherwise (`Criteria.CompiledFrom`). So a rule scores a text by the
number of distinct keywords found in it, and it matches a tool name by the least of its tools
that occurs in the name.

A compiled rule set has a default in normal form and names in normal form, sorted and distinct
(`RuleSet.CompiledFrom`). Each name other than the default is the normalization of a name of the
file, and holds the rule of the greatest file name with that normalization, since later names
overwrite earlier ones. The default is added last, with an empty rule, only when no file name
normalizes to it (`RuleFile.compile_adds_unnamed_default`).

Orders on texts here are the order of their characters, which is the order of their UTF-8 bytes.
-/

namespace TurnLedger.Classify

open Text

theorem keys_unit (l : List String) : (l.map (·, ())).map Prod.fst = l := by
  induction l with
  | nil => rfl
  | cons y ys ih => rw [List.map_cons, List.map_cons, ih]

theorem insertSorted_eq_keys (x : String) (l : List String) :
    insertSorted x l = (insertEntry x () (l.map (·, ()))).map Prod.fst := by
  induction l with
  | nil => rfl
  | cons y ys ih =>
    simp only [insertSorted, insertEntry, List.map_cons]
    split_ifs with h₁ h₂
    · rw [List.map_cons, List.map_cons, keys_unit]
    · rw [List.map_cons, keys_unit, beq_iff_eq.1 h₂]
    · rw [List.map_cons, ih]

@[simp] theorem mem_insertSorted {x y : String} {l : List String} :
    y ∈ insertSorted x l ↔ y = x ∨ y ∈ l := by
  rw [insertSorted_eq_keys, mem_keys_insertEntry, keys_unit]

theorem sorted_insertSorted {x : String} {l : List String} (h : l.Pairwise (· < ·)) :
    (insertSorted x l).Pairwise (· < ·) := by
  rw [insertSorted_eq_keys]
  exact sorted_insertEntry (by rw [keys_unit]; exact h)

theorem foldl_insertSorted (xs : List String) {acc : List String} (h : acc.Pairwise (· < ·)) :
    (xs.foldl (fun acc x => insertSorted x acc) acc).Pairwise (· < ·) ∧
      ∀ y, y ∈ xs.foldl (fun acc x => insertSorted x acc) acc ↔ y ∈ acc ∨ y ∈ xs := by
  induction xs generalizing acc with
  | nil => exact ⟨h, fun y => by simp⟩
  | cons x xs ih =>
    obtain ⟨hsorted, hmem⟩ := ih (@sorted_insertSorted x acc h)
    refine ⟨hsorted, fun y => ?_⟩
    rw [List.foldl_cons, hmem, mem_insertSorted, List.mem_cons]
    tauto

theorem sorted_sortedDistinct (xs : List String) : (sortedDistinct xs).Pairwise (· < ·) :=
  (foldl_insertSorted xs List.Pairwise.nil).1

@[simp] theorem mem_sortedDistinct {xs : List String} {y : String} :
    y ∈ sortedDistinct xs ↔ y ∈ xs := by
  rw [sortedDistinct, (foldl_insertSorted xs List.Pairwise.nil).2 y]
  simp

theorem find?_eq_some_iff_least {α : Type} [LinearOrder α] {l : List α}
    (hl : l.Pairwise (· < ·)) {p : α → Bool} {x : α} :
    l.find? p = some x ↔ x ∈ l ∧ p x ∧ ∀ y ∈ l, p y → x ≤ y := by
  have hsound : ∀ {z}, l.find? p = some z → z ∈ l ∧ p z ∧ ∀ y ∈ l, p y → z ≤ y := by
    intro z hz
    obtain ⟨hpz, as, bs, rfl, hbefore⟩ := List.find?_eq_some_iff_append.1 hz
    refine ⟨by simp, hpz, fun y hy hpy => ?_⟩
    rw [List.pairwise_append, List.pairwise_cons] at hl
    rcases List.mem_append.1 hy with hy | hy
    · exact absurd hpy (by simpa using hbefore y hy)
    · rcases List.mem_cons.1 hy with rfl | hy
      · exact le_refl _
      · exact (hl.2.1.1 y hy).le
  refine ⟨hsound, ?_⟩
  rintro ⟨hx, hpx, hleast⟩
  obtain ⟨z, hz⟩ := Option.isSome_iff_exists.1 (List.find?_isSome.2 ⟨x, hx, hpx⟩)
  obtain ⟨hzl, hpz, hzleast⟩ := hsound hz
  rw [hz, le_antisymm (hzleast x hx hpx) (hleast z hzl hpz)]

def Keyword.text : Keyword → String
  | .word w _ _ => w
  | .phrase p => p

theorem Keyword.compile_eq_none_iff {raw : String} :
    Keyword.compile raw = none ↔ normalize raw = "" := by
  unfold Keyword.compile
  dsimp only
  split_ifs with he <;> simp_all [String.isEmpty_iff]

theorem Keyword.text_of_compile {raw : String} {k : Keyword} (h : Keyword.compile raw = some k) :
    k.text = normalize raw := by
  unfold Keyword.compile at h
  dsimp only at h
  split_ifs at h <;> cases h <;> rfl

theorem Keyword.compile_normalize (raw : String) :
    Keyword.compile (normalize raw) = Keyword.compile raw := by
  simp only [Keyword.compile, normalize_normalize]

theorem Keyword.compile_text {raw : String} {k : Keyword} (h : Keyword.compile raw = some k) :
    Keyword.compile k.text = some k := by
  rw [Keyword.text_of_compile h, Keyword.compile_normalize, h]

theorem Keyword.eq_phrase_iff {raw : String} {k : Keyword} (h : Keyword.compile raw = some k) :
    k = .phrase k.text ↔ ∃ c ∈ k.text.toList, isBlank c = true := by
  have htext := Keyword.text_of_compile h
  have hne : normalize raw ≠ "" := fun he => by
    rw [← Keyword.compile_eq_none_iff] at he
    simp [he] at h
  obtain ⟨hh, hl⟩ := normalize_ends raw
  unfold Keyword.compile at h
  dsimp only at h
  rw [htext]
  split_ifs at h with he hw
  · cases h
    simp only [true_iff]
    -- a text with no blank is one word
    by_contra hno
    have := words_length_of_nonblank hne fun c hc => Bool.eq_false_iff.2 fun hb => hno ⟨c, hc, hb⟩
    omega
  · cases h
    simp only [reduceCtorEq, false_iff, not_exists, not_and]
    -- a blank inside a normalized text splits it into two words
    intro c hc hb
    exact hw (two_le_words_length hh hl ⟨c, hc, hb⟩)

theorem keywords_text {L : List String} (hL : ∀ w ∈ L, normalize w = w) :
    (L.filterMap Keyword.compile).map Keyword.text = L.filter (· ≠ "") := by
  induction L with
  | nil => rfl
  | cons w rest ih =>
    have hw := hL w List.mem_cons_self
    have hrest := ih fun x hx => hL x (List.mem_cons_of_mem _ hx)
    rw [List.filterMap_cons, List.filter_cons]
    cases hk : Keyword.compile w with
    | none =>
      have : w = "" := by rw [← hw, ← Keyword.compile_eq_none_iff, hk]
      simp [this, hrest]
    | some k =>
      have htext : k.text = w := by rw [Keyword.text_of_compile hk, hw]
      have : w ≠ "" := fun he => by
        rw [← hw, ← Keyword.compile_eq_none_iff] at he
        simp [he] at hk
      simp [htext, this, hrest]

theorem length_filter_filterMap {α β : Type} (f : α → Option β) (p : β → Bool) (l : List α) :
    ((l.filterMap f).filter p).length = (l.filter fun a => (f a).any p).length := by
  induction l with
  | nil => rfl
  | cons a rest ih =>
    rw [List.filterMap_cons, List.filter_cons]
    cases f a with
    | none => simpa using ih
    | some b =>
      by_cases hb : p b = true <;> simp [hb, ih]

/-- What a compiled rule holds, given the rule as written: its tools and keywords normalized,
sorted and distinct, blanks dropped, each keyword compiled from its text; and so how it scores a
text and which tool it finds in a tool name. -/
structure Criteria.CompiledFrom (r : Criteria) (spec : CategorySpec) : Prop where
  tools_sorted : r.tools.Pairwise (· < ·)
  mem_tools : ∀ t, t ∈ r.tools ↔ t ≠ "" ∧ ∃ raw ∈ spec.tools, normalize raw = t
  tools_normal : ∀ t ∈ r.tools, t ≠ "" ∧ normalize t = t
  keywords_sorted : (r.keywords.map Keyword.text).Pairwise (· < ·)
  mem_keywords : ∀ w, w ∈ r.keywords.map Keyword.text ↔ w ≠ "" ∧ ∃ raw ∈ spec.keywords, normalize raw = w
  keyword_compiled : ∀ k ∈ r.keywords, Keyword.compile k.text = some k
  phrase_iff : ∀ k ∈ r.keywords, k = .phrase k.text ↔ ∃ c ∈ k.text.toList, isBlank c = true
  score_eq : ∀ t, r.score t =
    ((spec.keywords.map normalize).toFinset.filter fun w => (Keyword.compile w).any (·.matches t)).card
  toolMatch?_eq_some : ∀ t x, r.toolMatch? t = some x ↔
    x ∈ r.tools ∧ x.toList <:+: t.toList ∧ ∀ y ∈ r.tools, y.toList <:+: t.toList → x ≤ y

section Spec

variable (spec : CategorySpec)

theorem normalize_of_mem_sortedDistinct {xs : List String} {w : String}
    (h : w ∈ sortedDistinct (xs.map normalize)) : normalize w = w := by
  obtain ⟨raw, -, rfl⟩ := List.mem_map.1 (mem_sortedDistinct.1 h)
  exact normalize_normalize raw

theorem compile_keywords_text :
    spec.compile.keywords.map Keyword.text =
      (sortedDistinct (spec.keywords.map normalize)).filter (· ≠ "") :=
  keywords_text fun _ hw => normalize_of_mem_sortedDistinct hw

theorem mem_compile_tools {t : String} :
    t ∈ spec.compile.tools ↔ t ≠ "" ∧ ∃ raw ∈ spec.tools, normalize raw = t := by
  simp [CategorySpec.compile, and_comm]

theorem compile_tools_sorted : spec.compile.tools.Pairwise (· < ·) :=
  (sorted_sortedDistinct _).filter _

theorem compile_score (t : String) : spec.compile.score t =
    ((spec.keywords.map normalize).toFinset.filter fun w => (Keyword.compile w).any (·.matches t)).card := by
  set L := sortedDistinct (spec.keywords.map normalize)
  have hnodup : L.Nodup := (sorted_sortedDistinct _).imp ne_of_lt
  -- the keywords are compiled from the distinct normalized texts, so counting matching
  -- keywords counts matching texts, each once
  have hset : L.toFinset = (spec.keywords.map normalize).toFinset := by
    ext w
    simp [L]
  rw [Criteria.score, CategorySpec.compile, length_filter_filterMap, ← hset, ← List.toFinset_filter,
    List.toFinset_card_of_nodup (hnodup.filter _)]

theorem CategorySpec.compiledFrom_compile : spec.compile.CompiledFrom spec where
  tools_sorted := compile_tools_sorted spec
  mem_tools _ := mem_compile_tools spec
  tools_normal t ht := by
    obtain ⟨hne, raw, -, rfl⟩ := (mem_compile_tools spec).1 ht
    exact ⟨hne, normalize_normalize raw⟩
  keywords_sorted := by
    rw [compile_keywords_text]
    exact (sorted_sortedDistinct _).filter _
  mem_keywords w := by
    rw [compile_keywords_text]
    simp [and_comm]
  keyword_compiled k hk := by
    obtain ⟨w, -, hw⟩ := List.mem_filterMap.1 hk
    exact Keyword.compile_text hw
  phrase_iff k hk := by
    obtain ⟨w, -, hw⟩ := List.mem_filterMap.1 hk
    exact Keyword.eq_phrase_iff hw
  score_eq := compile_score spec
  toolMatch?_eq_some t x := by
    rw [Criteria.toolMatch?, find?_eq_some_iff_least (compile_tools_sorted spec)]
    simp only [isSubstring_iff]

end Spec

/-- The categories named in a rule file, compiled, before the default is added. -/
def namedCategories (xs : List (String × CategorySpec)) : List (String × Criteria) :=
  xs.foldl (fun acc x =>
    if (normalize x.1).isEmpty then acc else insertEntry (normalize x.1) x.2.compile acc) []

theorem namedCategories_concat (xs : List (String × CategorySpec)) (x : String × CategorySpec) :
    namedCategories (xs ++ [x]) =
      if (normalize x.1).isEmpty then namedCategories xs
      else insertEntry (normalize x.1) x.2.compile (namedCategories xs) := by
  simp only [namedCategories, List.foldl_append, List.foldl_cons, List.foldl_nil]

theorem mem_insertEntry_imp {α : Type} {k : String} {v : α} {l : List (String × α)}
    {e : String × α} (h : e ∈ insertEntry k v l) : e = (k, v) ∨ e ∈ l := by
  induction l with
  | nil => simpa [insertEntry] using h
  | cons e' rest ih =>
    obtain ⟨k', v'⟩ := e'
    simp only [insertEntry] at h
    split_ifs at h <;> simp only [List.mem_cons] at h ⊢ <;> tauto

theorem mem_keys_namedCategories {xs : List (String × CategorySpec)} {k : String} :
    k ∈ (namedCategories xs).map Prod.fst ↔ k ≠ "" ∧ ∃ name ∈ xs.map Prod.fst, normalize name = k := by
  induction xs using List.reverseRecOn with
  | nil => simp [namedCategories]
  | append_singleton xs x ih =>
    rw [namedCategories_concat]
    split_ifs with hx
    · -- a blank name adds nothing
      have hx' : normalize x.1 = "" := by simpa [String.isEmpty_iff] using hx
      rw [ih]
      simp only [List.map_append, List.map_cons, List.map_nil, List.mem_append, List.mem_singleton]
      constructor
      · rintro ⟨hk, name, hname, he⟩
        exact ⟨hk, name, .inl hname, he⟩
      · rintro ⟨hk, name, hname | rfl, he⟩
        · exact ⟨hk, name, hname, he⟩
        · exact absurd (he ▸ hx') hk
    · have hx' : normalize x.1 ≠ "" := by simpa [String.isEmpty_iff] using hx
      rw [mem_keys_insertEntry, ih]
      simp only [List.map_append, List.map_cons, List.map_nil, List.mem_append, List.mem_singleton]
      constructor
      · rintro (rfl | ⟨hk, name, hname, he⟩)
        · exact ⟨hx', x.1, .inr rfl, rfl⟩
        · exact ⟨hk, name, .inl hname, he⟩
      · rintro ⟨hk, name, hname | rfl, he⟩
        · exact .inr ⟨hk, name, hname, he⟩
        · exact .inl he.symm

theorem source_of_mem_namedCategories {xs : List (String × CategorySpec)} {e : String × Criteria}
    (h : e ∈ namedCategories xs) :
    ∃ name spec, (name, spec) ∈ xs ∧ normalize name = e.1 ∧ e.2 = spec.compile := by
  induction xs using List.reverseRecOn with
  | nil => simp [namedCategories] at h
  | append_singleton xs x ih =>
    rw [namedCategories_concat] at h
    have hwiden : ∀ {name spec}, (name, spec) ∈ xs → (name, spec) ∈ xs ++ [x] :=
      fun hm => List.mem_append_left _ hm
    split_ifs at h
    · obtain ⟨name, spec, hm, hn, hr⟩ := ih h
      exact ⟨name, spec, hwiden hm, hn, hr⟩
    · rcases mem_insertEntry_imp h with rfl | h
      · exact ⟨x.1, x.2, by simp, rfl, rfl⟩
      · obtain ⟨name, spec, hm, hn, hr⟩ := ih h
        exact ⟨name, spec, hwiden hm, hn, hr⟩

theorem lookup_namedCategories_concat_of_ne {xs : List (String × CategorySpec)}
    {x : String × CategorySpec} {k : String} (h : normalize x.1 ≠ k) :
    (namedCategories (xs ++ [x])).lookup k = (namedCategories xs).lookup k := by
  rw [namedCategories_concat]
  split_ifs
  · rfl
  · rw [Activity.lookup_insertEntry, if_neg (Ne.symm h)]

theorem lookup_namedCategories_greatest {xs : List (String × CategorySpec)}
    (hsorted : (xs.map Prod.fst).Pairwise (· < ·)) {name : String} {spec : CategorySpec}
    (hmem : (name, spec) ∈ xs) (hne : normalize name ≠ "")
    (hgreatest : ∀ name' ∈ xs.map Prod.fst, normalize name' = normalize name → name' ≤ name) :
    (namedCategories xs).lookup (normalize name) = some spec.compile := by
  induction xs using List.reverseRecOn with
  | nil => simp at hmem
  | append_singleton xs x ih =>
    rw [List.map_append, List.pairwise_append] at hsorted
    have hbelow : ∀ y ∈ xs.map Prod.fst, y < x.1 := fun y hy => hsorted.2.2 y hy x.1 (by simp)
    rcases List.mem_append.1 hmem with hmem | hmem
    · -- the entry comes earlier, so the last name is greater and normalizes otherwise
      have hlt : name < x.1 := hbelow name (List.mem_map_of_mem hmem)
      have hother : normalize x.1 ≠ normalize name := fun he =>
        absurd (hgreatest x.1 (by simp) he) (not_le.2 hlt)
      rw [lookup_namedCategories_concat_of_ne hother]
      exact ih hsorted.1 hmem fun name' h' he => hgreatest name' (by simp [h']) he
    · -- the entry is the last one
      rw [List.mem_singleton] at hmem
      subst hmem
      rw [namedCategories_concat, if_neg (by simpa [String.isEmpty_iff] using hne),
        Activity.lookup_insertEntry, if_pos rfl]

/-- The categories with the default added, with an empty rule, unless it is among them. -/
def addDefault (d : String) (cats : List (String × Criteria)) : List (String × Criteria) :=
  if cats.any (·.1 == d) then cats else insertEntry d {} cats

theorem compile_categories (file : RuleFile) :
    file.compile.categories =
      addDefault file.compile.defaultCategory (namedCategories file.categories) := by
  simp only [RuleFile.compile, namedCategories, addDefault]

theorem any_key_iff {d : String} {cats : List (String × Criteria)} :
    cats.any (·.1 == d) = true ↔ d ∈ cats.map Prod.fst := by
  simp only [List.any_eq_true, beq_iff_eq, List.mem_map]

theorem mem_keys_addDefault {d k : String} {cats : List (String × Criteria)} :
    k ∈ (addDefault d cats).map Prod.fst ↔ k = d ∨ k ∈ cats.map Prod.fst := by
  unfold addDefault
  split_ifs with hd
  · rw [any_key_iff] at hd
    constructor
    · exact .inr
    · rintro (rfl | h)
      · exact hd
      · exact h
  · exact mem_keys_insertEntry

theorem mem_addDefault_imp {d : String} {cats : List (String × Criteria)} {e : String × Criteria}
    (h : e ∈ addDefault d cats) : e ∈ cats ∨ e = (d, {}) := by
  unfold addDefault at h
  split_ifs at h
  · exact .inl h
  · exact (mem_insertEntry_imp h).symm

theorem lookup_addDefault_of_mem {d k : String} {cats : List (String × Criteria)}
    (hk : k ∈ cats.map Prod.fst) : (addDefault d cats).lookup k = cats.lookup k := by
  unfold addDefault
  split_ifs with hd
  · rfl
  · rw [Activity.lookup_insertEntry, if_neg]
    rintro rfl
    exact hd (any_key_iff.2 hk)

theorem lookup_addDefault_of_not_mem {d : String} {cats : List (String × Criteria)}
    (hd : d ∉ cats.map Prod.fst) : (addDefault d cats).lookup d = some {} := by
  unfold addDefault
  rw [if_neg (fun h => hd (any_key_iff.1 h)), Activity.lookup_insertEntry, if_pos rfl]

/-- What a compiled rule set holds, given the rule file: a default and names in normal form, the
names sorted and distinct, each name other than the default the normalization of a file name and
holding the rule of the greatest file name with that normalization, the default holding an empty
rule when no file name normalizes to it, every rule compiled from a rule as written, and the
scored categories the names other than the default, in order. -/
structure RuleSet.CompiledFrom (rs : RuleSet) (file : RuleFile) : Prop where
  default_normal : NormalCategory rs.defaultCategory
  default_mem : rs.defaultCategory ∈ rs.names
  names_sorted : rs.names.Pairwise (· < ·)
  names_normal : ∀ k ∈ rs.names, NormalCategory k
  mem_names : ∀ k, k ∈ rs.names ↔
    k = rs.defaultCategory ∨ k ≠ "" ∧ ∃ name ∈ file.categories.map Prod.fst, normalize name = k
  rule_source : ∀ k r, (k, r) ∈ rs.categories →
    (∃ name spec, (name, spec) ∈ file.categories ∧ normalize name = k ∧ r = spec.compile) ∨
      k = rs.defaultCategory ∧ r = {}
  rule_greatest : ∀ name spec, (name, spec) ∈ file.categories → normalize name ≠ "" →
    (∀ name' ∈ file.categories.map Prod.fst, normalize name' = normalize name → name' ≤ name) →
    rs.categories.lookup (normalize name) = some spec.compile
  rule_default : (∀ name ∈ file.categories.map Prod.fst, normalize name ≠ rs.defaultCategory) →
    rs.categories.lookup rs.defaultCategory = some {}
  rules_compiled : ∀ k r, (k, r) ∈ rs.categories → ∃ spec, r.CompiledFrom spec
  scored_sorted : (rs.scored.map Prod.fst).Pairwise (· < ·)
  mem_scored : ∀ k, k ∈ rs.scored.map Prod.fst ↔ k ∈ rs.names ∧ k ≠ rs.defaultCategory

section File

variable (file : RuleFile)

theorem compile_default_normal : NormalCategory file.compile.defaultCategory :=
  compile_names_normal file _ (compile_compiled file).hasDefault

theorem compile_mem_names {k : String} : k ∈ file.compile.names ↔
    k = file.compile.defaultCategory ∨
      k ≠ "" ∧ ∃ name ∈ file.categories.map Prod.fst, normalize name = k := by
  rw [RuleSet.names, compile_categories, mem_keys_addDefault, mem_keys_namedCategories]

theorem compile_rule_source {k : String} {r : Criteria} (h : (k, r) ∈ file.compile.categories) :
    (∃ name spec, (name, spec) ∈ file.categories ∧ normalize name = k ∧ r = spec.compile) ∨
      k = file.compile.defaultCategory ∧ r = {} := by
  rw [compile_categories] at h
  rcases mem_addDefault_imp h with h | he
  · exact .inl (source_of_mem_namedCategories h)
  · exact .inr (Prod.mk.injEq _ _ _ _ ▸ he)

theorem compile_rule_default
    (h : ∀ name ∈ file.categories.map Prod.fst, normalize name ≠ file.compile.defaultCategory) :
    file.compile.categories.lookup file.compile.defaultCategory = some {} := by
  rw [compile_categories]
  refine lookup_addDefault_of_not_mem fun hm => ?_
  obtain ⟨-, name, hname, he⟩ := mem_keys_namedCategories.1 hm
  exact h name hname he

theorem compile_mem_scored {k : String} :
    k ∈ file.compile.scored.map Prod.fst ↔ k ∈ file.compile.names ∧ k ≠ file.compile.defaultCategory := by
  simp [RuleSet.scored, RuleSet.names]

end File

/-- Compiling a rule file, with its categories sorted by name as a dictionary keeps them, gives a
rule set compiled from it. -/
theorem RuleFile.compile_compiledFrom (file : RuleFile)
    (hsorted : (file.categories.map Prod.fst).Pairwise (· < ·)) :
    file.compile.CompiledFrom file where
  default_normal := compile_default_normal file
  default_mem := (compile_compiled file).hasDefault
  names_sorted := (compile_compiled file).sorted
  names_normal := compile_names_normal file
  mem_names _ := compile_mem_names file
  rule_source _ _ h := compile_rule_source file h
  rule_greatest name spec hmem hne hgreatest := by
    rw [compile_categories, lookup_addDefault_of_mem (mem_keys_namedCategories.2
      ⟨hne, name, List.mem_map_of_mem hmem, rfl⟩)]
    exact lookup_namedCategories_greatest hsorted hmem hne hgreatest
  rule_default h := compile_rule_default file h
  rules_compiled k r h := by
    rcases compile_rule_source file h with ⟨-, spec, -, -, rfl⟩ | ⟨-, rfl⟩
    · exact ⟨spec, spec.compiledFrom_compile⟩
    · exact ⟨{}, CategorySpec.compiledFrom_compile {}⟩
  scored_sorted := (compile_compiled file).scored_sorted
  mem_scored _ := compile_mem_scored file

/-- The built-in rules are sorted by name, so the built-in rule set is compiled from them. -/
theorem RuleFile.compile_compiledFrom_builtin :
    (builtinSpec.categories.map Prod.fst).Pairwise (· < ·) ∧ builtinRules.CompiledFrom builtinSpec :=
  ⟨by decide, RuleFile.compile_compiledFrom builtinSpec (by decide)⟩

/-- A default that no file name normalizes to is a name of the rule set all the same: `misc` is
added with an empty rule, though the file names only `code`. -/
theorem RuleFile.compile_adds_unnamed_default :
    "misc" ∈ ({ defaultCategory := "misc", categories := [("code", { keywords := ["bug"] })] } :
        RuleFile).compile.names ∧
      ∀ name ∈ [("code", ({ keywords := ["bug"] } : CategorySpec))].map Prod.fst,
        normalize name ≠ "misc" := by
  decide

end TurnLedger.Classify

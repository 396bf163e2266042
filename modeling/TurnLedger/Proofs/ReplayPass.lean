import Mathlib.Tactic.IntervalCases
import TurnLedger.Proofs.FileEffects
import TurnLedger.Queue.Pass

/-!
# What one replay pass does

The pass runs over a world whose clock, store and cancellation token leave the volume alone.
A pass that returns a report has taken a first part of the queue files, in order, and left the
rest untouched, exactly when the token fired; it has read the clock and asked the store once
for each valid entry of the files it took, in order; it has deleted each such file whose
entries were all stored, and left every other one holding exactly its malformed and refused
entries under a fresh title; nothing else on the volume changed but the temporary siblings of
rewritten files; and its report counts all of this.

What the store answered is seen through a transcript that the world keeps of its clock
readings and store calls; keeping it changes nothing of the pass.
-/

namespace TurnLedger.Queue

open Files Activity Store

variable {σ : Type}

/-- A world whose clock, store and token leave its volume alone, and whose volume can be
set. -/
structure World.Isolated (W : World σ) : Prop where
  volume_withVolume : ∀ w v, W.volume (W.withVolume w v) = v
  volume_now : ∀ w, W.volume (W.now w).2 = W.volume w
  volume_create : ∀ w r, W.volume (W.create w r).2 = W.volume w
  volume_cancelled : ∀ w, W.volume (W.cancelled w).2 = W.volume w

/-- What a world saw of a pass: the clock readings it gave, and each record the store was
asked to create with whether it stored it, in order. -/
structure Transcript where
  readings : List Time.Instant := []
  calls : List (Record × Bool) := []

def World.transcribed (W : World σ) : World (σ × Transcript) where
  volume s := W.volume s.1
  withVolume s v := (W.withVolume s.1 v, s.2)
  now s :=
    let (t, w) := W.now s.1
    (t, (w, { s.2 with readings := s.2.readings ++ [t] }))
  create s r :=
    let (out, w) := W.create s.1 r
    (out, (w, { s.2 with calls := s.2.calls ++ [(r, out.isOk)] }))
  cancelled s :=
    let (b, w) := W.cancelled s.1
    (b, (w, s.2))

section Transcribed

variable (W : World σ) (w : σ) (tr : Transcript)

@[simp] theorem World.transcribed_volume : W.transcribed.volume (w, tr) = W.volume w := rfl

@[simp] theorem World.transcribed_withVolume (v : Volume) :
    W.transcribed.withVolume (w, tr) v = (W.withVolume w v, tr) := rfl

@[simp] theorem World.transcribed_now :
    W.transcribed.now (w, tr) =
      ((W.now w).1, ((W.now w).2, { tr with readings := tr.readings ++ [(W.now w).1] })) := rfl

@[simp] theorem World.transcribed_create (r : Record) :
    W.transcribed.create (w, tr) r =
      ((W.create w r).1, ((W.create w r).2,
        { tr with calls := tr.calls ++ [(r, (W.create w r).1.isOk)] })) := rfl

@[simp] theorem World.transcribed_cancelled :
    W.transcribed.cancelled (w, tr) = ((W.cancelled w).1, ((W.cancelled w).2, tr)) := rfl

end Transcribed

theorem World.Isolated.transcribed {W : World σ} (hW : W.Isolated) : W.transcribed.Isolated where
  volume_withVolume w v := hW.volume_withVolume w.1 v
  volume_now w := hW.volume_now w.1
  volume_create w r := hW.volume_create w.1 r
  volume_cancelled w := hW.volume_cancelled w.1

/-- The raw texts a pass keeps of a file's entries, given the store's answers to the valid
ones in order: the malformed entries, and those the store did not store. -/
def keptOf : List Entry → List Bool → List String
  | [], _ => []
  | e :: es, answers =>
    match e.record, answers with
    | none, _ => e.raw :: keptOf es answers
    | some _, true :: rest => keptOf es rest
    | some _, false :: rest => e.raw :: keptOf es rest
    | some _, [] => e.raw :: keptOf es []

def recordsOf (es : List Entry) : List Record := es.filterMap (·.record)

/-- The calls a pass makes for the valid records `rs`, given the clock readings and the
store's answers: each record with the defaults of its reading. -/
def callsOf (rs : List Record) (readings : List Time.Instant) (answers : List Bool) :
    List (Record × Bool) :=
  (rs.zipWith Record.withDefaults readings).zip answers

section Entries

variable (W : World σ)

theorem replayEntries_eq (hW : W.Isolated) (es : List Entry) (w : σ) (tr : Transcript)
    (rep : Report) (acc : List String) :
    ∃ w' : σ, ∃ ts : List Time.Instant, ∃ answers : List Bool,
      ts.length = (recordsOf es).length ∧ answers.length = (recordsOf es).length ∧
      W.volume w' = W.volume w ∧
      ((∀ w r, (W.create w r).1.isOk = true) → ∀ a ∈ answers, a = true) ∧
      Pass.replayEntries W.transcribed ⟨(w, tr), rep⟩ es acc =
        (⟨(w', { readings := tr.readings ++ ts,
                 calls := tr.calls ++ callsOf (recordsOf es) ts answers }),
          { rep with flushed := rep.flushed + answers.count true,
                     malformed := rep.malformed + es.countP (!·.isValid) }⟩,
         acc.reverse ++ keptOf es answers) := by
  induction es generalizing w tr rep acc with
  | nil =>
    exact ⟨w, [], [], rfl, rfl, rfl, by simp, by simp [Pass.replayEntries, recordsOf, callsOf, keptOf]⟩
  | cons e es ih =>
    cases hr : e.record with
    | none =>
      obtain ⟨w', ts, answers, hts, hans, hv, hacc, heq⟩ :=
        ih w tr { rep with malformed := rep.malformed + 1 } (e.raw :: acc)
      refine ⟨w', ts, answers, by simpa [recordsOf, hr] using hts,
        by simpa [recordsOf, hr] using hans, hv, hacc, ?_⟩
      simp only [Pass.replayEntries, hr, heq]
      simp [recordsOf, keptOf, hr, Entry.isValid]
      omega
    | some r =>
      rcases hn : W.now w with ⟨t, w₁⟩
      rcases hc : W.create w₁ (r.withDefaults t) with ⟨out, w₂⟩
      have hv₂ : W.volume w₂ = W.volume w := by
        have h₁ := hW.volume_now w
        have h₂ := hW.volume_create w₁ (r.withDefaults t)
        rw [hn] at h₁; rw [hc] at h₂
        exact h₂.trans h₁
      let tr₂ : Transcript :=
        { readings := tr.readings ++ [t], calls := tr.calls ++ [(r.withDefaults t, out.isOk)] }
      cases out with
      | ok stored =>
        obtain ⟨w', ts, answers, hts, hans, hv, hacc, heq⟩ :=
          ih w₂ tr₂ { rep with flushed := rep.flushed + 1 } acc
        refine ⟨w', t :: ts, true :: answers, by simpa [recordsOf, hr] using hts,
          by simpa [recordsOf, hr] using hans, hv.trans hv₂,
          fun hs => List.forall_mem_cons.2 ⟨rfl, hacc hs⟩, ?_⟩
        simp only [Pass.replayEntries, hr, World.transcribed_now, hn, World.transcribed_create, hc]
        rw [heq]
        simp [tr₂, recordsOf, callsOf, keptOf, hr, Entry.isValid, Except.isOk, Except.toBool]
        omega
      | error fault =>
        obtain ⟨w', ts, answers, hts, hans, hv, -, heq⟩ := ih w₂ tr₂ rep (e.raw :: acc)
        -- a store that stores every record cannot have refused this one
        have hrefused : ¬∀ w r, (W.create w r).1.isOk = true := fun hs => by
          simpa [hc, Except.isOk, Except.toBool] using hs w₁ (r.withDefaults t)
        refine ⟨w', t :: ts, false :: answers, by simpa [recordsOf, hr] using hts,
          by simpa [recordsOf, hr] using hans, hv.trans hv₂, fun hs => absurd hs hrefused, ?_⟩
        simp only [Pass.replayEntries, hr, World.transcribed_now, hn, World.transcribed_create, hc]
        rw [heq]
        simp [tr₂, recordsOf, callsOf, keptOf, hr, Entry.isValid, Except.isOk, Except.toBool]

end Entries

theorem removeDrained_of_readText {v : Volume} {p : Path} {s : String} (h : v.readText p = .ok s) :
    removeDrained v p = .ok (v.erase (v.locate p)) := by
  simp [removeDrained, Volume.removeFile_of_readText h]

theorem replaceText_eq_ok {v v' : Volume} {path : Path} {text : String}
    (h : replaceText v path text = .ok v') :
    v'.cwd = v.cwd ∧ ∀ k, v'.nodeAt k =
      if k = v.locate path then some (.file text.toUTF8)
      else if k = v.locate (path ++ ".tmp") then none else v.nodeAt k := by
  unfold replaceText at h
  obtain ⟨v₁, hw, h⟩ := Except.bind_eq_ok.1 h
  have hw' : v.writeText (path ++ ".tmp") text = .ok v₁ := by
    cases hx : v.writeText (path ++ ".tmp") text <;> simp_all [Except.mapError]
  obtain ⟨hT, rfl⟩ := Volume.writeText_eq_ok hw'
  split at h
  · rename_i v₂ hr
    cases h
    obtain ⟨b, hb, hK, rfl⟩ := Volume.rename_eq_ok hr
    have hloc : ∀ q, (v.put (v.locate (path ++ ".tmp")) (.file text.toUTF8)).locate q =
        v.locate q := Volume.locate_congr (by simp)
    rw [hloc] at hb hK
    rw [hloc, hloc, Volume.nodeAt_put _ hT, if_pos rfl] at *
    cases hb
    refine ⟨by simp, fun k => ?_⟩
    rw [Volume.nodeAt_put _ hK, Volume.nodeAt_erase _ hT, Volume.nodeAt_put _ hT]
    by_cases h₁ : k = v.locate path <;> by_cases h₂ : k = v.locate (path ++ ".tmp") <;>
      simp [h₁, h₂]
  · cases h


theorem Except.map_eq_ok {ε α β : Type} {x : Except ε α} {f : α → β} {b : β} :
    x.map f = .ok b ↔ ∃ a, x = .ok a ∧ f a = b := by
  cases x <;> simp [Except.map]

/-- Settling a file read as `body` counts the kept texts and deletes the file when none is
kept; otherwise the file holds their text, and when that text is new it was rewritten and its
temporary sibling is gone. Nothing else changes. -/
theorem settleFile_eq_ok {v v' : Volume} {path body : String} {kept : List String}
    {rep rep' : Report} (hb : v.readText path = .ok body)
    (h : settleFile v path body kept rep = .ok (v', rep')) :
    rep' = { rep with
      retained := rep.retained + kept.length
      filesDeleted := rep.filesDeleted + if kept.isEmpty then 1 else 0
      filesRewritten := rep.filesRewritten +
        if (!kept.isEmpty && pendingFile ((fileStem path).getD "") kept != body) then 1 else 0 } ∧
    v'.cwd = v.cwd ∧ ∀ k, v'.nodeAt k =
      if k = v.locate path then
        if kept.isEmpty then none
        else some (.file (pendingFile ((fileStem path).getD "") kept).toUTF8)
      else if k = v.locate (path ++ ".tmp") ∧
          (!kept.isEmpty && pendingFile ((fileStem path).getD "") kept != body) = true then none
      else v.nodeAt k := by
  have hnode := (Volume.readText_eq_ok hb).2.2
  have hK : v.locate path ≠ [] := fun h0 => by rw [h0, Volume.nodeAt_nil] at hnode; cases hnode
  unfold settleFile at h
  split at h
  · -- nothing kept: the file is removed
    rename_i hk
    rw [removeDrained_of_readText hb] at h
    obtain ⟨_, hv', h⟩ := Except.map_eq_ok.1 h
    cases hv'
    cases h
    refine ⟨by simp [hk], rfl, fun k => ?_⟩
    rw [Volume.nodeAt_erase _ hK]
    by_cases hk' : k = v.locate path <;> simp [hk, hk']
  rename_i hk
  dsimp only at h
  split at h
  · -- the kept texts already make up the file
    rename_i hsame
    replace hsame := beq_iff_eq.1 hsame
    cases h
    refine ⟨by simp [hk, hsame], rfl, fun k => ?_⟩
    by_cases hk' : k = v.locate path
    · simp [hk', hk, hnode, hsame]
    · simp [hk', hsame]
  · -- the file is replaced by the kept texts
    rename_i hdiff
    replace hdiff : pendingFile ((fileStem path).getD "") kept ≠ body :=
      fun h => hdiff (beq_iff_eq.2 h)
    obtain ⟨v₂, hr, h⟩ := Except.map_eq_ok.1 h
    cases h
    obtain ⟨hcwd, hnodes⟩ := replaceText_eq_ok hr
    refine ⟨by simp [hk, hdiff], hcwd, fun k => ?_⟩
    rw [hnodes]
    simp [hk, hdiff]

/-- A file as a pass took it: its path, the text read from it, and for its valid entries in
order, the clock readings and the store's answers. -/
structure FileRun where
  path : Path
  body : String
  readings : List Time.Instant
  answers : List Bool

namespace FileRun

def entries (f : FileRun) : List Entry := entriesOf f.body

def calls (f : FileRun) : List (Record × Bool) := callsOf (recordsOf f.entries) f.readings f.answers

/-- The raw texts of the entries kept: the malformed ones and those the store refused. -/
def kept (f : FileRun) : List String := keptOf f.entries f.answers

def text (f : FileRun) : String := pendingFile ((fileStem f.path).getD "") f.kept

/-- Whether the file was rewritten: entries were kept and their text is new. -/
def rewritten (f : FileRun) : Bool := !f.kept.isEmpty && f.text != f.body

def after (f : FileRun) : Option Node := if f.kept.isEmpty then none else some (.file f.text.toUTF8)

def Complete (f : FileRun) : Prop :=
  f.readings.length = (recordsOf f.entries).length ∧ f.answers.length = (recordsOf f.entries).length

end FileRun

def Report.tally (r : Report) (f : FileRun) : Report :=
  { r with
    flushed := r.flushed + f.answers.count true
    retained := r.retained + f.kept.length
    malformed := r.malformed + f.entries.countP (!·.isValid)
    filesDeleted := r.filesDeleted + if f.kept.isEmpty then 1 else 0
    filesRewritten := r.filesRewritten + if f.rewritten then 1 else 0 }

/-- A report counting the entries of one more file replayed, before the file is settled. -/
def Report.replayed (r : Report) (f : FileRun) : Report :=
  { r with
    flushed := r.flushed + f.answers.count true
    malformed := r.malformed + f.entries.countP (!·.isValid) }

section Drain

variable (W : World σ)

theorem drainFile_eq_none (hW : W.Isolated) {w : σ} {tr : Transcript} {rep : Report}
    {path : Path} {p' : Pass (σ × Transcript)}
    (h : Pass.drainFile W.transcribed ⟨(w, tr), rep⟩ path = (p', none)) :
    ∃ f : FileRun, f.path = path ∧ f.Complete ∧ (W.volume w).readText path = .ok f.body ∧
      p'.world.2 = { readings := tr.readings ++ f.readings, calls := tr.calls ++ f.calls } ∧
      p'.report = rep.tally f ∧
      (W.volume p'.world.1).cwd = (W.volume w).cwd ∧
      (∀ k, (W.volume p'.world.1).nodeAt k =
        if k = (W.volume w).locate path then f.after
        else if k = (W.volume w).locate (path ++ ".tmp") ∧ f.rewritten = true then none
        else (W.volume w).nodeAt k) ∧
      settleFile (W.volume w) path f.body f.kept (rep.replayed f) =
        .ok (W.volume p'.world.1, p'.report) := by
  unfold Pass.drainFile at h
  simp only [World.transcribed_volume] at h
  cases hread : (W.volume w).readText path with
  | error e => simp [hread] at h
  | ok body =>
    simp only [hread] at h
    obtain ⟨w', ts, answers, hts, hans, hv, -, heq⟩ :=
      replayEntries_eq W hW (entriesOf body) w tr rep []
    rw [heq] at h
    simp only [List.reverse_nil, List.nil_append, World.transcribed_volume, hv] at h
    rcases hs : settleFile (W.volume w) path body (keptOf (entriesOf body) answers) _
      with e | ⟨v', rep'⟩
    · rw [hs] at h
      cases h
    rw [hs] at h
    obtain ⟨rfl, -⟩ := Prod.mk.inj h
    obtain ⟨hrep, hcwd, hnodes⟩ := settleFile_eq_ok hread hs
    refine ⟨⟨path, body, ts, answers⟩, rfl, ⟨hts, hans⟩, rfl, rfl, ?_, ?_, fun k => ?_, ?_⟩
    · rw [hrep]
      rfl
    · simp [World.transcribed_withVolume, hW.volume_withVolume, hcwd]
    · simp only [World.transcribed_withVolume, hW.volume_withVolume, hnodes]
      rfl
    · simp only [World.transcribed_withVolume, hW.volume_withVolume]
      exact hs

end Drain


/-- Paths whose parts are all different, as are the parts of their temporary siblings, and
whose siblings' parts are none of the paths' parts. -/
structure Apart (v : Volume) (files : List Path) : Prop where
  paths : (files.map v.locate).Nodup
  siblings : (files.map fun p => v.locate (p ++ ".tmp")).Nodup
  sibling_ne : ∀ p ∈ files, ∀ q ∈ files, v.locate (p ++ ".tmp") ≠ v.locate q

theorem Apart.tail {v : Volume} {p : Path} {rest : List Path} (h : Apart v (p :: rest)) :
    Apart v rest where
  paths := (List.nodup_cons.1 h.paths).2
  siblings := (List.nodup_cons.1 h.siblings).2
  sibling_ne q hq q' hq' := h.sibling_ne q (.tail _ hq) q' (.tail _ hq')

theorem Apart.head_ne {v : Volume} {p : Path} {rest : List Path} (h : Apart v (p :: rest))
    {q : Path} (hq : q ∈ rest) :
    v.locate q ≠ v.locate p ∧ v.locate q ≠ v.locate (p ++ ".tmp") ∧
      v.locate (q ++ ".tmp") ≠ v.locate p ∧
      v.locate (q ++ ".tmp") ≠ v.locate (p ++ ".tmp") := by
  refine ⟨fun he => ?_, fun he => h.sibling_ne p (.head _) q (.tail _ hq) he.symm,
    h.sibling_ne q (.tail _ hq) p (.head _), fun he => ?_⟩
  · exact (List.nodup_cons.1 h.paths).1 (List.mem_map.2 ⟨q, hq, he⟩)
  · exact (List.nodup_cons.1 h.siblings).1 (List.mem_map.2 ⟨q, hq, he⟩)

theorem Apart.congr {v v' : Volume} (hc : v'.cwd = v.cwd) {files : List Path}
    (h : Apart v files) : Apart v' files := by
  have hloc : v'.locate = v.locate := funext (Volume.locate_congr hc)
  exact ⟨by rw [hloc]; exact h.paths, by rw [hloc]; exact h.siblings,
    by rw [hloc]; exact h.sibling_ne⟩


/-- What a pass that took `runs` left on a volume `v`, now `v'`: each file taken holds what its
run says, the temporary sibling of each rewritten one is gone, and nothing else changed. -/
structure Settles (v v' : Volume) (runs : List FileRun) : Prop where
  cwd : v'.cwd = v.cwd
  taken : ∀ f ∈ runs, f.Complete ∧ v.nodeAt (v.locate f.path) = some (.file f.body.toUTF8) ∧
    v'.nodeAt (v.locate f.path) = f.after ∧
    (f.rewritten = true → v'.nodeAt (v.locate (f.path ++ ".tmp")) = none)
  frame : ∀ k, (∀ f ∈ runs, k ≠ v.locate f.path ∧ k ≠ v.locate (f.path ++ ".tmp")) →
    v'.nodeAt k = v.nodeAt k

theorem Settles.nil (v : Volume) : Settles v v [] := ⟨rfl, by simp, fun _ _ => rfl⟩

theorem Settles.cons {v v₁ v' : Volume} {f : FileRun} {runs : List FileRun}
    (hcwd : v₁.cwd = v.cwd) (hf : f.Complete)
    (hbody : v.nodeAt (v.locate f.path) = some (.file f.body.toUTF8))
    (hnodes : ∀ k, v₁.nodeAt k = if k = v.locate f.path then f.after
      else if k = v.locate (f.path ++ ".tmp") ∧ f.rewritten = true then none else v.nodeAt k)
    (hsib : v.locate (f.path ++ ".tmp") ≠ v.locate f.path)
    (hfar : ∀ g ∈ runs, v.locate g.path ≠ v.locate f.path ∧
      v.locate g.path ≠ v.locate (f.path ++ ".tmp") ∧
      v.locate (g.path ++ ".tmp") ≠ v.locate f.path ∧
      v.locate (g.path ++ ".tmp") ≠ v.locate (f.path ++ ".tmp"))
    (h : Settles v₁ v' runs) : Settles v v' (f :: runs) := by
  have hloc : v₁.locate = v.locate := funext (Volume.locate_congr hcwd)
  obtain ⟨hcwd', hruns, hframe⟩ := h
  rw [hloc] at hruns hframe
  refine ⟨hcwd'.trans hcwd, fun g hg => ?_, fun k hk => ?_⟩
  · rcases List.mem_cons.1 hg with rfl | hg
    · refine ⟨hf, hbody, ?_, fun hrw => ?_⟩
      · rw [hframe _ fun g' hg' => ⟨(hfar g' hg').1.symm, (hfar g' hg').2.2.1.symm⟩, hnodes]
        simp
      · rw [hframe _ fun g' hg' => ⟨(hfar g' hg').2.1.symm, (hfar g' hg').2.2.2.symm⟩, hnodes]
        simp [hsib, hrw]
    · obtain ⟨hcomp', hbody', hafter, hsib'⟩ := hruns g hg
      refine ⟨hcomp', ?_, hafter, hsib'⟩
      rw [← hbody', hnodes]
      simp [(hfar g hg).1, (hfar g hg).2.1]
  · rw [hframe k fun g hg => hk g (.tail _ hg), hnodes]
    simp [(hk f (.head _)).1, (hk f (.head _)).2]


section Files

variable (W : World σ)

/-- A pass over apart files that returns a report took a first part of them, stopping exactly
when the token fired before a file; each file it took was settled as the file's run says, and
nothing else changed but the siblings of rewritten files. -/
theorem replayFiles_eq_ok (hW : W.Isolated) (files : List Path) {w : σ} {tr : Transcript}
    {rep : Report} (hc : rep.cancelled = false) (hapart : Apart (W.volume w) files)
    {q q' : Pass (σ × Transcript)}
    (h : Pass.replayFiles W.transcribed ⟨(w, tr), rep⟩ files = (.ok q, q')) :
    q' = q ∧ ∃ runs : List FileRun, ∃ untouched : List Path,
      files = runs.map (·.path) ++ untouched ∧
      q.report = { runs.foldl Report.tally rep with cancelled := !untouched.isEmpty } ∧
      q.world.2 = { readings := tr.readings ++ (runs.map (·.readings)).flatten,
                    calls := tr.calls ++ (runs.map (·.calls)).flatten } ∧
      (W.volume q.world.1).cwd = (W.volume w).cwd ∧
      (∀ f ∈ runs, f.Complete ∧
        (W.volume w).nodeAt ((W.volume w).locate f.path) = some (.file f.body.toUTF8) ∧
        (W.volume q.world.1).nodeAt ((W.volume w).locate f.path) = f.after ∧
        (f.rewritten = true →
          (W.volume q.world.1).nodeAt ((W.volume w).locate (f.path ++ ".tmp")) = none)) ∧
      ∀ k, (∀ f ∈ runs, k ≠ (W.volume w).locate f.path ∧
          k ≠ (W.volume w).locate (f.path ++ ".tmp")) →
        (W.volume q.world.1).nodeAt k = (W.volume w).nodeAt k := by
  induction files generalizing w tr rep with
  | nil =>
    simp only [Pass.replayFiles, Prod.mk.injEq, Except.ok.injEq] at h
    obtain ⟨rfl, rfl⟩ := h
    refine ⟨rfl, [], [], rfl, ?_, by simp, rfl, by simp, fun k _ => rfl⟩
    cases rep
    simp_all
  | cons path rest ih =>
    rw [Pass.replayFiles] at h
    simp only [World.transcribed_cancelled] at h
    rcases hcw : W.cancelled w with ⟨stop, w₁⟩
    simp only [hcw] at h
    have hv₁ : W.volume w₁ = W.volume w := by
      have := hW.volume_cancelled w
      rwa [hcw] at this
    cases stop with
    | true =>
      -- the token fired: every file is left
      simp only [if_true, Prod.mk.injEq, Except.ok.injEq] at h
      obtain ⟨rfl, rfl⟩ := h
      refine ⟨rfl, [], path :: rest, rfl, by simp, by simp, by simp [hv₁], by simp,
        fun k _ => by simp [hv₁]⟩
    | false =>
      simp only [Bool.false_eq_true, if_false] at h
      rcases hd : Pass.drainFile W.transcribed ⟨(w₁, tr), rep⟩ path with ⟨p₁, _ | fault⟩
      swap
      · rw [hd] at h; cases h
      rw [hd] at h
      obtain ⟨f, rfl, hcomp, hread, htr, hrep, hcwd, hnodes, -⟩ := drainFile_eq_none W hW hd
      rw [hv₁] at hread hnodes
      have hc₁ : p₁.report.cancelled = false := by rw [hrep]; exact hc
      obtain ⟨rfl, runs, untouched, hfiles, hrepq, htrq, hcwdq, hruns, hframe⟩ :=
        @ih p₁.world.1 p₁.world.2 p₁.report hc₁
          (hapart.tail.congr (hcwd.trans (by rw [hv₁]))) h
      -- the parts of the later files, and their siblings, are not the first file's
      have hfar : ∀ g ∈ runs, (W.volume w).locate g.path ≠ (W.volume w).locate f.path ∧
          (W.volume w).locate g.path ≠ (W.volume w).locate (f.path ++ ".tmp") ∧
          (W.volume w).locate (g.path ++ ".tmp") ≠ (W.volume w).locate f.path ∧
          (W.volume w).locate (g.path ++ ".tmp") ≠ (W.volume w).locate (f.path ++ ".tmp") :=
        fun g hg => hapart.head_ne (by rw [hfiles]; exact List.mem_append_left _ (List.mem_map_of_mem hg))
      have hset := Settles.cons (hcwd.trans (by rw [hv₁])) hcomp (Volume.readText_eq_ok hread).2.2
        hnodes (hapart.sibling_ne _ (.head _) _ (.head _)) hfar ⟨hcwdq, hruns, hframe⟩
      exact ⟨rfl, f :: runs, untouched, by rw [hfiles]; rfl, by rw [hrepq, hrep]; rfl,
        by rw [htrq, htr]; simp, hset.cwd, hset.taken, hset.frame⟩

end Files


theorem apart_queueFiles {v : Volume} (hv : v.WellFormed) {dir : Path} {files : List Path}
    (h : queueFiles v dir = .ok files) : Apart v files := by
  obtain ⟨ns, rfl, hnd, hns⟩ := queueFiles_eq_ok hv h
  have hloc : ∀ n ∈ ns, v.locate (join dir n) = v.locate dir ++ [n] :=
    fun n hn => v.locate_join dir (hns n hn).1
  have htmp : ∀ n ∈ ns, v.locate (join dir n ++ ".tmp") = v.locate dir ++ [n ++ ".tmp"] :=
    fun n hn => by
      rw [join_append_tmp dir (hns n hn).1, v.locate_join dir (hns n hn).1.append_tmp]
  refine ⟨?_, ?_, ?_⟩
  · rw [List.map_map]
    refine hnd.map_on fun n hn m hm he => ?_
    simpa [hloc n hn, hloc m hm] using he
  · rw [List.map_map]
    refine hnd.map_on fun n hn m hm he => ?_
    simpa [htmp n hn, htmp m hm] using he
  · simp only [List.mem_map]
    rintro _ ⟨n, hn, rfl⟩ _ ⟨m, hm, rfl⟩ he
    rw [htmp n hn, hloc m hm, List.append_cancel_left_eq, List.cons.injEq] at he
    have hext := (hns m hm).2
    rw [← he.1, ← join_append_tmp dir (hns n hn).1] at hext
    exact extension_join_tmp dir (hns n hn).1 hext

theorem keptOf_eq_nil_iff (es : List Entry) (answers : List Bool)
    (hlen : answers.length = (recordsOf es).length) :
    keptOf es answers = [] ↔ (∀ e ∈ es, e.isValid = true) ∧ ∀ a ∈ answers, a = true := by
  induction es generalizing answers with
  | nil =>
    have : answers = [] := List.eq_nil_of_length_eq_zero (by simpa [recordsOf] using hlen)
    subst this
    simp [keptOf]
  | cons e es ih =>
    cases hr : e.record with
    | none => simp [keptOf, hr, Entry.isValid]
    | some r =>
      obtain ⟨a, answers, rfl⟩ : ∃ a rest, answers = a :: rest :=
        List.exists_cons_of_length_eq_add_one (by simpa [recordsOf, hr] using hlen)
      have hlen' : answers.length = (recordsOf es).length := by simpa [recordsOf, hr] using hlen
      cases a <;> simp [keptOf, hr, Entry.isValid, ih answers hlen']

/-- The report of a pass that took `runs`: the entries it stored, the entries it kept and of
those the malformed ones, the files it deleted and rewrote, and whether it stopped early. -/
def reportOf (runs : List FileRun) (cancelled : Bool) : Report where
  flushed := (runs.map fun f => f.answers.count true).sum
  retained := (runs.map fun f => f.kept.length).sum
  malformed := (runs.map fun f => f.entries.countP (!·.isValid)).sum
  filesDeleted := runs.countP fun f => f.kept.isEmpty
  filesRewritten := runs.countP FileRun.rewritten
  cancelled := cancelled

theorem foldl_tally (runs : List FileRun) (rep : Report) :
    runs.foldl Report.tally rep =
      { rep with
        flushed := rep.flushed + (reportOf runs false).flushed
        retained := rep.retained + (reportOf runs false).retained
        malformed := rep.malformed + (reportOf runs false).malformed
        filesDeleted := rep.filesDeleted + (reportOf runs false).filesDeleted
        filesRewritten := rep.filesRewritten + (reportOf runs false).filesRewritten } := by
  induction runs generalizing rep with
  | nil => simp [reportOf]
  | cons f runs ih =>
    rw [List.foldl_cons, ih]
    simp only [Report.tally, reportOf, List.map_cons, List.sum_cons, List.countP_cons,
      Report.mk.injEq]
    refine ⟨by omega, by omega, by omega, ?_, ?_, trivial⟩ <;> split <;> omega


/-- One replay pass over the queue directory of a well-formed volume, in a world whose clock,
store and token leave the volume alone, that returns a report. It took the queue files in
order up to the point where the token fired. It read the clock and asked the store once for
each valid entry of each file it took, in order, with the defaults of that reading. It deleted
a file it took exactly when no entry was malformed and the store stored every one, and left
every other one holding exactly its kept entries under a fresh title, with no temporary
sibling. Untouched files, and everything else, are as they were; the report counts it all. -/
theorem flush_retains_exactly_unstored (W : World σ) (hW : W.Isolated) (dir : Path) (w₀ : σ)
    (hv : (W.volume w₀).WellFormed) (report : Report) (s : σ × Transcript)
    (hrun : flushIn W.transcribed dir (w₀, {}) = (.ok report, s)) :
    ∃ runs : List FileRun, ∃ untouched : List Path,
      queueFiles (W.volume w₀) dir = .ok (runs.map (·.path) ++ untouched) ∧
      (untouched ≠ [] ↔ report.cancelled = true) ∧
      s.2 = { readings := (runs.map (·.readings)).flatten,
              calls := (runs.map (·.calls)).flatten } ∧
      (∀ f ∈ runs, f.Complete ∧
        (W.volume w₀).nodeAt ((W.volume w₀).locate f.path) = some (.file f.body.toUTF8) ∧
        (W.volume s.1).nodeAt ((W.volume w₀).locate f.path) = f.after ∧
        (f.after = none ↔ (∀ e ∈ f.entries, e.isValid = true) ∧ ∀ a ∈ f.answers, a = true) ∧
        (f.rewritten = true →
          (W.volume s.1).nodeAt ((W.volume w₀).locate (f.path ++ ".tmp")) = none)) ∧
      (∀ p ∈ untouched, (W.volume s.1).nodeAt ((W.volume w₀).locate p) =
        (W.volume w₀).nodeAt ((W.volume w₀).locate p)) ∧
      (∀ k, (∀ f ∈ runs, k ≠ (W.volume w₀).locate f.path ∧
          k ≠ (W.volume w₀).locate (f.path ++ ".tmp")) →
        (W.volume s.1).nodeAt k = (W.volume w₀).nodeAt k) ∧
      report = reportOf runs (!untouched.isEmpty) := by
  unfold flushIn at hrun
  simp only [World.transcribed_volume] at hrun
  rcases hq : queueFiles (W.volume w₀) dir with fault | files
  · rw [hq] at hrun; cases hrun
  rw [hq] at hrun
  dsimp only at hrun
  rcases hrf : Pass.replayFiles W.transcribed ⟨(w₀, {}), {}⟩ files with ⟨out, q'⟩
  rw [hrf] at hrun
  cases out with
  | error e => cases hrun
  | ok q =>
    simp only [Except.map, Prod.mk.injEq, Except.ok.injEq] at hrun
    have hapart := apart_queueFiles hv hq
    obtain ⟨hq', runs, untouched, rfl, hrep, htr, -, hruns, hframe⟩ :=
      replayFiles_eq_ok W hW _ rfl hapart hrf
    rw [hq'] at hrun
    obtain ⟨rfl, rfl⟩ := hrun
    have hreport : q.report = reportOf runs (!untouched.isEmpty) := by
      rw [hrep, foldl_tally]
      simp [reportOf]
    refine ⟨runs, untouched, rfl, ?_, by simpa using htr, fun f hf => ?_, fun p hp => ?_,
      hframe, hreport⟩
    · rw [hreport]
      simp [reportOf]
    · obtain ⟨hcomp, hbody, hafter, hsib⟩ := hruns f hf
      refine ⟨hcomp, hbody, hafter, ?_, hsib⟩
      rw [← keptOf_eq_nil_iff _ _ hcomp.2]
      simp [FileRun.after, FileRun.kept, List.isEmpty_iff]
    · -- an untouched file is neither a file taken nor a temporary sibling of one
      refine hframe _ fun f hf => ⟨fun he => ?_, fun he => ?_⟩
      · have hnd := hapart.paths
        rw [List.map_append, List.nodup_append] at hnd
        exact hnd.2.2 _ (List.mem_map.2 ⟨f.path, List.mem_map_of_mem hf, rfl⟩) _
          (List.mem_map_of_mem hp) he.symm
      · exact hapart.sibling_ne f.path (List.mem_append_left _ (List.mem_map_of_mem hf)) p
          (List.mem_append_right _ hp) he.symm


theorem Host.setDatabase_volume (h : Host) (ks : List String) (d : Database) :
    (h.setDatabase ks d).volume = h.volume := by
  unfold Host.setDatabase; split <;> rfl

theorem Site.withTable_volume (site : Site) (d : Database) :
    (site.withTable d).host.volume = site.host.volume := by
  unfold Site.withTable; split <;> simp [Host.setDatabase_volume]

theorem Site.create_volume (site : Site) (r : Record) :
    (site.create r).2.host.volume = site.host.volume := by
  unfold Site.create
  split
  · split
    rename_i out st _
    cases out <;> rfl
  · dsimp only
    split
    · exact Site.withTable_volume _ _
    · rfl

theorem sessionWorld_isolated (clock : Clock) : (sessionWorld clock []).Isolated where
  volume_withVolume _ _ := rfl
  volume_now s := by cases clock <;> rfl
  volume_create s r := Site.create_volume s.site r
  volume_cancelled _ := rfl

def stillWorld : World Surroundings := sessionWorld (.fixed ⟨0, 0⟩) []

/-- A session whose queue directory `q` holds one file, `a.md`, with an entry of session `a`,
one of session `x`, which the store refuses, and a malformed one. -/
def mixedSession : Surroundings :=
  ⟨⟨{ volume := { nodes := [(["q"], .directory), (["q", "a.md"], .file
      ("```json\n\x7b\"session_key\":\"a\"\x7d\n```\n```json\n\x7b\"session_key\":\"x\"\x7d\n```\n" ++
        "```json\n-\n```\n").toUTF8)] },
      stamps := { clock := ⟨0, 0⟩ } }, .memory { rejected := some ["x"] }⟩, false⟩

/-- What a pass over `mixedSession` reports: one entry stored, two kept, one of them malformed,
and the file rewritten. -/
def mixedReport : Report := { flushed := 1, retained := 2, malformed := 1, filesRewritten := 1 }

theorem flush_mixedSession :
    flushIn stillWorld.transcribed "q" (mixedSession, {}) =
      (.ok mixedReport, (flushIn stillWorld.transcribed "q" (mixedSession, {})).2) := by
  refine Prod.ext ?_ rfl
  have h : (flushIn stillWorld.transcribed "q" (mixedSession, {})).1.toOption = some mixedReport := by
    decide +kernel
  revert h
  cases (flushIn stillWorld.transcribed "q" (mixedSession, {})).1 <;> simp [Except.toOption]

theorem flush_retains_exactly_unstored_mixed :
    (stillWorld.Isolated ∧ (stillWorld.volume mixedSession).WellFormed ∧
      flushIn stillWorld.transcribed "q" (mixedSession, {}) =
        (.ok mixedReport, (flushIn stillWorld.transcribed "q" (mixedSession, {})).2)) ∧
    ∃ runs : List FileRun, ∃ untouched : List Path,
      queueFiles (stillWorld.volume mixedSession) "q" = .ok (runs.map (·.path) ++ untouched) ∧
      (untouched ≠ [] ↔ mixedReport.cancelled = true) ∧
      (flushIn stillWorld.transcribed "q" (mixedSession, {})).2.2 =
        { readings := (runs.map (·.readings)).flatten, calls := (runs.map (·.calls)).flatten } ∧
      (∀ f ∈ runs, f.Complete ∧
        (stillWorld.volume mixedSession).nodeAt
          ((stillWorld.volume mixedSession).locate f.path) = some (.file f.body.toUTF8) ∧
        (stillWorld.volume (flushIn stillWorld.transcribed "q" (mixedSession, {})).2.1).nodeAt
          ((stillWorld.volume mixedSession).locate f.path) = f.after ∧
        (f.after = none ↔ (∀ e ∈ f.entries, e.isValid = true) ∧ ∀ a ∈ f.answers, a = true) ∧
        (f.rewritten = true →
          (stillWorld.volume (flushIn stillWorld.transcribed "q" (mixedSession, {})).2.1).nodeAt
            ((stillWorld.volume mixedSession).locate (f.path ++ ".tmp")) = none)) ∧
      (∀ p ∈ untouched,
        (stillWorld.volume (flushIn stillWorld.transcribed "q" (mixedSession, {})).2.1).nodeAt
          ((stillWorld.volume mixedSession).locate p) =
        (stillWorld.volume mixedSession).nodeAt ((stillWorld.volume mixedSession).locate p)) ∧
      (∀ k, (∀ f ∈ runs, k ≠ (stillWorld.volume mixedSession).locate f.path ∧
          k ≠ (stillWorld.volume mixedSession).locate (f.path ++ ".tmp")) →
        (stillWorld.volume (flushIn stillWorld.transcribed "q" (mixedSession, {})).2.1).nodeAt k =
          (stillWorld.volume mixedSession).nodeAt k) ∧
      mixedReport = reportOf runs (!untouched.isEmpty) :=
  ⟨⟨sessionWorld_isolated _, ⟨by decide, by decide⟩, flush_mixedSession⟩,
    flush_retains_exactly_unstored stillWorld (sessionWorld_isolated _) "q" mixedSession
      ⟨by decide, by decide⟩ _ _ flush_mixedSession⟩

end TurnLedger.Queue

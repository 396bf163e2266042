import TurnLedger.Proofs.QueueDocument
import TurnLedger.Proofs.ReplayPass

/-!
# Running a pass again

A file a pass rewrites holds exactly the entries it kept: written back, every text the reader
gives is read again as itself, with its own record. So a second pass whose store refuses those
entries again keeps the same texts and leaves the file as it is (`pendingFile_reparses_retained`).

A pass that fails at a file leaves that file as it was, even when the store has already stored
some of its entries: those stay in the file, and a pass run again asks the store for them once
more (`flush_abort_leaves_failing_file`).
-/

namespace TurnLedger.Queue

open Files Activity

theorem mem_keptOf {es : List Entry} {answers : List Bool} {r : String}
    (h : r ∈ keptOf es answers) : ∃ e ∈ es, e.raw = r := by
  induction es generalizing answers with
  | nil => simp [keptOf] at h
  | cons e es ih =>
    -- a kept text is this entry's, or one kept of the rest under some answers
    have h' : r = e.raw ∨ ∃ answers', r ∈ keptOf es answers' := by
      unfold keptOf at h
      split at h <;> grind
    rcases h' with rfl | ⟨answers', h'⟩
    · exact ⟨e, .head _, rfl⟩
    · obtain ⟨e', he', rfl⟩ := ih h'
      exact ⟨e', .tail _ he', rfl⟩

theorem keptOf_refused (es : List Entry) :
    keptOf es ((recordsOf es).map fun _ => false) = es.map (·.raw) := by
  induction es with
  | nil => rfl
  | cons e es ih =>
    cases hr : e.record with
    | none => simp [keptOf, recordsOf, hr, ← ih]
    | some r => simp [keptOf, recordsOf, hr, ← ih]

theorem keepable_of_mem_kept {f : FileRun} {r : String} (hr : r ∈ f.kept) : Keepable r := by
  obtain ⟨e, he, rfl⟩ := mem_keptOf hr
  exact (keepable_of_mem_entriesOf he).1

/-- Compaction. Texts the reader can give back, written into one queue file, read back as
exactly those texts with their own records; every text the reader gives back is such a text,
so rewriting a document with its entries gives the same entries. Hence the text a pass leaves
in a file reads back as the kept texts, and a second pass over it whose store refuses every
valid entry again keeps the same texts and leaves the file as it is, without rewriting it. -/
theorem pendingFile_reparses_retained (L : String) (hL : '\n' ∉ L.toList) :
    (∀ raws : List String, (∀ r ∈ raws, Keepable r) →
      entriesOf (pendingFile L raws) = raws.map entryOf) ∧
    (∀ d, ∀ e ∈ entriesOf d, Keepable e.raw ∧ e = entryOf e.raw) ∧
    (∀ d, entriesOf (pendingFile L ((entriesOf d).map (·.raw))) = entriesOf d) ∧
    ∀ f : FileRun, (fileStem f.path).getD "" = L →
      entriesOf f.text = f.kept.map entryOf ∧
      ∀ readings : List Time.Instant,
        let g : FileRun :=
          ⟨f.path, f.text, readings, (recordsOf (entriesOf f.text)).map fun _ => false⟩
        g.kept = f.kept ∧ g.rewritten = false ∧ g.after = f.after := by
  refine ⟨fun raws h => entriesOf_pendingFile hL h, fun d e he => keepable_of_mem_entriesOf he,
    entriesOf_pendingFile_raws hL, fun f hf => ?_⟩
  have htext : entriesOf f.text = f.kept.map entryOf := by
    rw [FileRun.text, hf]
    exact entriesOf_pendingFile hL fun r hr => keepable_of_mem_kept hr
  refine ⟨htext, fun readings => ?_⟩
  intro g
  -- the second pass keeps every text it reads, which are the texts the first one kept
  have hkept : g.kept = f.kept := by
    show keptOf (entriesOf f.text) ((recordsOf (entriesOf f.text)).map fun _ => false) = f.kept
    rw [keptOf_refused, htext, List.map_map]
    exact List.map_id' _
  have hgtext : g.text = f.text := by
    show pendingFile ((fileStem f.path).getD "") g.kept = f.text
    rw [hkept]; rfl
  refine ⟨hkept, ?_, ?_⟩
  · show (!g.kept.isEmpty && g.text != f.text) = false
    simp [hgtext]
  · show (if g.kept.isEmpty then none else some (.file g.text.toUTF8)) = f.after
    rw [hkept, hgtext]; rfl

/-- A dated queue file, the label every queue file has. -/
theorem pendingFile_reparses_retained_dated :
    '\n' ∉ "2026-02-19".toList ∧
    (∀ raws : List String, (∀ r ∈ raws, Keepable r) →
      entriesOf (pendingFile "2026-02-19" raws) = raws.map entryOf) ∧
    (∀ d, ∀ e ∈ entriesOf d, Keepable e.raw ∧ e = entryOf e.raw) ∧
    (∀ d, entriesOf (pendingFile "2026-02-19" ((entriesOf d).map (·.raw))) = entriesOf d) ∧
    ∀ f : FileRun, (fileStem f.path).getD "" = "2026-02-19" →
      entriesOf f.text = f.kept.map entryOf ∧
      ∀ readings : List Time.Instant,
        let g : FileRun :=
          ⟨f.path, f.text, readings, (recordsOf (entriesOf f.text)).map fun _ => false⟩
        g.kept = f.kept ∧ g.rewritten = false ∧ g.after = f.after :=
  ⟨by decide +kernel, pendingFile_reparses_retained _ (by decide +kernel)⟩


variable {σ : Type}

theorem FileRun.countP_calls {f : FileRun} (hf : f.Complete) :
    f.calls.countP (·.2) = f.answers.count true := by
  have hlen : f.answers.length ≤
      ((recordsOf f.entries).zipWith Record.withDefaults f.readings).length := by
    simp [hf.1, hf.2]
  rw [FileRun.calls, callsOf, show (fun c : Record × Bool => c.2) = id ∘ Prod.snd from rfl,
    ← List.countP_map, List.map_snd_zip hlen, List.count_eq_countP]
  simp only [beq_true]
  rfl

section Abort

variable (W : World σ)

/-- A file whose drain failed leaves the volume as it was. Either it could not be read, and the
pass is as before, or it was read and its entries replayed, and deleting or rewriting it
failed: the store was asked for its valid entries, and those it stored are counted. -/
theorem drainFile_eq_some (hW : W.Isolated) {w : σ} {tr : Transcript} {rep : Report}
    {path : Path} {p' : Pass (σ × Transcript)} {fault : QueueFault}
    (h : Pass.drainFile W.transcribed ⟨(w, tr), rep⟩ path = (p', some fault)) :
    W.volume p'.world.1 = W.volume w ∧
      (p' = ⟨(w, tr), rep⟩ ∨
        ∃ f : FileRun, f.path = path ∧ f.Complete ∧ (W.volume w).readText path = .ok f.body ∧
          p'.world.2 = { readings := tr.readings ++ f.readings, calls := tr.calls ++ f.calls } ∧
          p'.report.flushed = rep.flushed + f.answers.count true) := by
  unfold Pass.drainFile at h
  simp only [World.transcribed_volume] at h
  cases hread : (W.volume w).readText path with
  | error e =>
    simp only [hread, Prod.mk.injEq] at h
    obtain ⟨rfl, -⟩ := h
    exact ⟨rfl, .inl rfl⟩
  | ok body =>
    simp only [hread] at h
    obtain ⟨w', ts, answers, hts, hans, hv, -, heq⟩ :=
      replayEntries_eq W hW (entriesOf body) w tr rep []
    rw [heq] at h
    simp only [List.reverse_nil, List.nil_append, World.transcribed_volume, hv] at h
    -- the failure came from settling the file, which leaves the pass as the replay left it
    have hp' : p'.world = (w', ⟨tr.readings ++ ts,
          tr.calls ++ callsOf (recordsOf (entriesOf body)) ts answers⟩) ∧
        p'.report.flushed = rep.flushed + answers.count true := by
      split at h
      · obtain ⟨rfl, -⟩ := Prod.mk.inj h
        exact ⟨rfl, rfl⟩
      · cases h
    refine ⟨by rw [hp'.1]; exact hv, .inr ⟨⟨path, body, ts, answers⟩, rfl, ⟨hts, hans⟩, rfl,
      by rw [hp'.1]; rfl, hp'.2⟩⟩

/-- A pass over apart files that fails took a first part of them, each settled as its run
says, and failed at the next, whose drain may have replayed its entries first; that file and
the rest are as they were. The failure counts every entry the store stored. -/
theorem replayFiles_eq_error (hW : W.Isolated) (files : List Path) {w : σ} {tr : Transcript}
    {rep : Report} (hapart : Apart (W.volume w) files) {ab : PassAbort}
    {q' : Pass (σ × Transcript)}
    (h : Pass.replayFiles W.transcribed ⟨(w, tr), rep⟩ files = (.error ab, q')) :
    ∃ runs : List FileRun, ∃ failing : Path, ∃ rest : List Path, ∃ stopped : Option FileRun,
      files = runs.map (·.path) ++ failing :: rest ∧
      (∀ f ∈ stopped, f.path = failing ∧ f.Complete ∧
        (W.volume w).nodeAt ((W.volume w).locate failing) = some (.file f.body.toUTF8)) ∧
      q'.world.2 = { readings := tr.readings ++ ((runs ++ stopped.toList).map (·.readings)).flatten,
                     calls := tr.calls ++ ((runs ++ stopped.toList).map (·.calls)).flatten } ∧
      ab.flushed =
        rep.flushed + ((runs ++ stopped.toList).map fun f => f.answers.count true).sum ∧
      Settles (W.volume w) (W.volume q'.world.1) runs := by
  induction files generalizing w tr rep with
  | nil => simp [Pass.replayFiles] at h
  | cons path rest ih =>
    rw [Pass.replayFiles] at h
    simp only [World.transcribed_cancelled] at h
    rcases hcw : W.cancelled w with ⟨stop, w₁⟩
    simp only [hcw] at h
    have hv₁ : W.volume w₁ = W.volume w := by
      have := hW.volume_cancelled w
      rwa [hcw] at this
    cases stop with
    | true => simp at h
    | false =>
      simp only [Bool.false_eq_true, if_false] at h
      rcases hd : Pass.drainFile W.transcribed ⟨(w₁, tr), rep⟩ path with ⟨p₁, _ | fault⟩
      · -- this file drained: the failure came at a later one
        rw [hd] at h
        obtain ⟨f, rfl, hcomp, hread, htr, hrep, hcwd, hnodes, -⟩ := drainFile_eq_none W hW hd
        rw [hv₁] at hread hnodes
        have hcwd₁ : (W.volume p₁.world.1).cwd = (W.volume w).cwd := hcwd.trans (by rw [hv₁])
        have hloc : (W.volume p₁.world.1).locate = (W.volume w).locate :=
          funext (Volume.locate_congr hcwd₁)
        obtain ⟨runs, failing, rest', stopped, hfiles, hstop, htrq, hflushed, hset⟩ :=
          ih (hapart.tail.congr hcwd₁) h
        have hfar : ∀ g ∈ runs, (W.volume w).locate g.path ≠ (W.volume w).locate f.path ∧
            (W.volume w).locate g.path ≠ (W.volume w).locate (f.path ++ ".tmp") ∧
            (W.volume w).locate (g.path ++ ".tmp") ≠ (W.volume w).locate f.path ∧
            (W.volume w).locate (g.path ++ ".tmp") ≠ (W.volume w).locate (f.path ++ ".tmp") :=
          fun g hg => hapart.head_ne (by rw [hfiles]; exact List.mem_append_left _ (List.mem_map_of_mem hg))
        refine ⟨f :: runs, failing, rest', stopped, by rw [hfiles]; rfl, fun g hg => ?_,
          by rw [htrq, htr]; simp, by rw [hflushed, hrep]; simp [Report.tally]; omega,
          Settles.cons hcwd₁ hcomp (Volume.readText_eq_ok hread).2.2 hnodes
            (hapart.sibling_ne _ (.head _) _ (.head _)) hfar hset⟩
        -- the failing file is neither the drained one nor its sibling, so it is as it was
        obtain ⟨hpath, hcompg, hbody⟩ := hstop g hg
        have hfail := hapart.head_ne (show failing ∈ rest by rw [hfiles]; simp)
        refine ⟨hpath, hcompg, ?_⟩
        rw [hloc, hnodes] at hbody
        simpa [hfail.1, hfail.2.1] using hbody
      · -- this file failed
        rw [hd] at h
        simp only [Prod.mk.injEq, Except.error.injEq] at h
        obtain ⟨rfl, rfl⟩ := h
        obtain ⟨hv, hp | ⟨f, rfl, hcomp, hread, htr, hflushed⟩⟩ := drainFile_eq_some W hW hd
        · -- it could not be read: nothing of it was replayed
          subst hp
          refine ⟨[], path, rest, none, rfl, by simp, by simp, by simp, ?_⟩
          simpa [hv₁] using Settles.nil (W.volume w)
        · refine ⟨[], f.path, rest, some f, rfl, fun g hg => ?_, by rw [htr]; simp,
            by rw [hflushed]; simp, ?_⟩
          · cases hg
            exact ⟨rfl, hcomp, by rw [← hv₁]; exact (Volume.readText_eq_ok hread).2.2⟩
          · simpa [hv, hv₁] using Settles.nil (W.volume w)

end Abort

theorem Apart.later_ne {v : Volume} {runs : List FileRun} {later : List Path}
    (h : Apart v (runs.map (·.path) ++ later)) {p : Path} (hp : p ∈ later) :
    ∀ f ∈ runs, v.locate p ≠ v.locate f.path ∧ v.locate p ≠ v.locate (f.path ++ ".tmp") := by
  intro f hf
  have hfp : f.path ∈ runs.map (·.path) ++ later :=
    List.mem_append_left _ (List.mem_map_of_mem hf)
  refine ⟨fun he => ?_, fun he => h.sibling_ne f.path hfp p (List.mem_append_right _ hp) he.symm⟩
  have hnd := h.paths
  rw [List.map_append, List.nodup_append] at hnd
  exact hnd.2.2 _ (List.mem_map.2 ⟨f.path, List.mem_map_of_mem hf, rfl⟩) _
    (List.mem_map_of_mem hp) he.symm

theorem countP_calls_flatten {runs : List FileRun} (h : ∀ f ∈ runs, f.Complete) :
    ((runs.map (·.calls)).flatten).countP (·.2) = (runs.map fun f => f.answers.count true).sum := by
  rw [List.countP_flatten, List.map_map]
  congr 1
  exact List.map_congr_left fun f hf => FileRun.countP_calls (h f hf)

/-- An aborted pass over the queue directory of a well-formed volume, in a world whose clock,
store and token leave the volume alone. The failure counts exactly the store calls that
returned a record. Either the queue could not be listed and nothing happened, or the pass
settled a first part of the files as a finished pass would, and failed at the next one, whose
entries it may already have replayed: that file, and every later one, is left as it was, so
whatever the store stored of it is still in it. -/
theorem flush_abort_leaves_failing_file (W : World σ) (hW : W.Isolated) (dir : Path) (w₀ : σ)
    (hv : (W.volume w₀).WellFormed) (ab : PassAbort) (s : σ × Transcript)
    (hrun : flushIn W.transcribed dir (w₀, {}) = (.error ab, s)) :
    ab.flushed = s.2.calls.countP (·.2) ∧
    ((∃ fault, queueFiles (W.volume w₀) dir = .error fault) ∧ s = (w₀, {}) ∨
      ∃ runs : List FileRun, ∃ failing : Path, ∃ rest : List Path, ∃ stopped : Option FileRun,
        queueFiles (W.volume w₀) dir = .ok (runs.map (·.path) ++ failing :: rest) ∧
        (∀ f ∈ stopped, f.path = failing ∧ f.Complete ∧
          (W.volume w₀).nodeAt ((W.volume w₀).locate failing) = some (.file f.body.toUTF8)) ∧
        s.2 = { readings := ((runs ++ stopped.toList).map (·.readings)).flatten,
                calls := ((runs ++ stopped.toList).map (·.calls)).flatten } ∧
        Settles (W.volume w₀) (W.volume s.1) runs ∧
        ∀ p ∈ failing :: rest, (W.volume s.1).nodeAt ((W.volume w₀).locate p) =
          (W.volume w₀).nodeAt ((W.volume w₀).locate p)) := by
  unfold flushIn at hrun
  simp only [World.transcribed_volume] at hrun
  rcases hq : queueFiles (W.volume w₀) dir with fault | files
  · -- the listing failed before anything was read
    rw [hq] at hrun
    simp only [Prod.mk.injEq, Except.error.injEq] at hrun
    obtain ⟨rfl, rfl⟩ := hrun
    exact ⟨rfl, .inl ⟨⟨fault, rfl⟩, rfl⟩⟩
  rw [hq] at hrun
  dsimp only at hrun
  rcases hrf : Pass.replayFiles W.transcribed ⟨(w₀, {}), {}⟩ files with ⟨out, q'⟩
  rw [hrf] at hrun
  cases out with
  | ok q => cases hrun
  | error e =>
    simp only [Except.map, Prod.mk.injEq, Except.error.injEq] at hrun
    obtain ⟨rfl, rfl⟩ := hrun
    have hapart := apart_queueFiles hv hq
    obtain ⟨runs, failing, rest, stopped, rfl, hstop, htr, hflushed, hset⟩ :=
      replayFiles_eq_error W hW _ hapart hrf
    have hcomp : ∀ f ∈ runs ++ stopped.toList, f.Complete := by
      intro f hf
      rcases List.mem_append.1 hf with hf | hf
      · exact (hset.taken f hf).1
      · exact (hstop f (Option.mem_toList.1 hf)).2.1
    refine ⟨?_, .inr ⟨runs, failing, rest, stopped, rfl, hstop, by simpa using htr, hset,
      fun p hp => hset.frame _ (hapart.later_ne hp)⟩⟩
    rw [hflushed, htr]
    simpa using (countP_calls_flatten hcomp).symm


def blockedText : String :=
  "## queued_at: 2026-02-19T00:00:00Z\n```json\n\x7b\"id\":\"q-1\",\"session_key\":\"q-1\"\x7d\n```\n\n" ++
    "## queued_at: 2026-02-19T00:00:00Z\n```json\nnot-json\n```\n\n"

/-- A session whose queue directory `q` holds `2026-02-19.md` with `blockedText`, and a
directory where the file's temporary sibling would go, so that the file cannot be rewritten. -/
def blockedSession : Surroundings :=
  ⟨⟨{ volume := { nodes := [(["q"], .directory), (["q", "2026-02-19.md"], .file blockedText.toUTF8),
      (["q", "2026-02-19.md.tmp"], .directory)] },
      stamps := { clock := ⟨0, 0⟩ } }, .memory {}⟩, false⟩

theorem flush_blockedSession :
    flushIn stillWorld.transcribed "q" (blockedSession, {}) =
      (.error ⟨1, .write "q/2026-02-19.md" .isDirectory⟩,
        (flushIn stillWorld.transcribed "q" (blockedSession, {})).2) := by
  refine Prod.ext ?_ rfl
  have h : (match (flushIn stillWorld.transcribed "q" (blockedSession, {})).1 with
      | .error ab => some (ab.flushed, ab.source)
      | .ok _ => none) = some (1, .write "q/2026-02-19.md" .isDirectory) := by decide +kernel
  revert h
  rcases (flushIn stillWorld.transcribed "q" (blockedSession, {})).1 with ⟨n, src⟩ | r <;> simp

/-- An aborted pass can leave a stored entry on disk: over `blockedSession` the store stores
`q-1`, the rewrite of its file fails, and the file still holds `q-1`'s entry, which a later pass
replays again. -/
theorem flush_abort_keeps_stored_entry :
    (flushIn stillWorld.transcribed "q" (blockedSession, {})).1 =
        .error ⟨1, .write "q/2026-02-19.md" .isDirectory⟩ ∧
      (flushIn stillWorld.transcribed "q" (blockedSession, {})).2.2.calls.map
        (fun c => (c.1.id, c.2)) = [("q-1", true)] ∧
      (entriesOf blockedText).map (·.record.map (·.id)) = [some "q-1", none] ∧
      (stillWorld.volume (flushIn stillWorld.transcribed "q" (blockedSession, {})).2.1).nodeAt
          ["q", "2026-02-19.md"] = some (.file blockedText.toUTF8) := by
  refine ⟨congrArg Prod.fst flush_blockedSession, ?_, ?_, ?_⟩ <;> decide +kernel

theorem flush_abort_leaves_failing_file_blocked :
    (stillWorld.Isolated ∧ (stillWorld.volume blockedSession).WellFormed ∧
      flushIn stillWorld.transcribed "q" (blockedSession, {}) =
        (.error ⟨1, .write "q/2026-02-19.md" .isDirectory⟩,
          (flushIn stillWorld.transcribed "q" (blockedSession, {})).2)) ∧
    (⟨1, .write "q/2026-02-19.md" .isDirectory⟩ : PassAbort).flushed =
      (flushIn stillWorld.transcribed "q" (blockedSession, {})).2.2.calls.countP (·.2) ∧
    ((∃ fault, queueFiles (stillWorld.volume blockedSession) "q" = .error fault) ∧
        (flushIn stillWorld.transcribed "q" (blockedSession, {})).2 = (blockedSession, {}) ∨
      ∃ runs : List FileRun, ∃ failing : Path, ∃ rest : List Path, ∃ stopped : Option FileRun,
        queueFiles (stillWorld.volume blockedSession) "q" =
          .ok (runs.map (·.path) ++ failing :: rest) ∧
        (∀ f ∈ stopped, f.path = failing ∧ f.Complete ∧
          (stillWorld.volume blockedSession).nodeAt
            ((stillWorld.volume blockedSession).locate failing) = some (.file f.body.toUTF8)) ∧
        (flushIn stillWorld.transcribed "q" (blockedSession, {})).2.2 =
          { readings := ((runs ++ stopped.toList).map (·.readings)).flatten,
            calls := ((runs ++ stopped.toList).map (·.calls)).flatten } ∧
        Settles (stillWorld.volume blockedSession)
          (stillWorld.volume (flushIn stillWorld.transcribed "q" (blockedSession, {})).2.1) runs ∧
        ∀ p ∈ failing :: rest,
          (stillWorld.volume (flushIn stillWorld.transcribed "q" (blockedSession, {})).2.1).nodeAt
            ((stillWorld.volume blockedSession).locate p) =
          (stillWorld.volume blockedSession).nodeAt
            ((stillWorld.volume blockedSession).locate p)) :=
  ⟨⟨sessionWorld_isolated _, ⟨by decide, by decide⟩, flush_blockedSession⟩,
    flush_abort_leaves_failing_file stillWorld (sessionWorld_isolated _) "q" blockedSession
      ⟨by decide, by decide⟩ _ _ flush_blockedSession⟩

end TurnLedger.Queue

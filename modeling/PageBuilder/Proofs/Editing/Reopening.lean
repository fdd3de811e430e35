import PageBuilder.Proofs.Editing.Sessions
import PageBuilder.Proofs.Files.Storage
import PageBuilder.Proofs.Identity.Repairs
import PageBuilder.Proofs.Saving.Decoded

set_option autoImplicit false

namespace PageBuilder

open IdGenerator (counterLimit)

namespace Document

theorem Repaired.decodable {before after : List Block} (repaired : Repaired before after)
    (decodable : ∀ b ∈ before, b.Decodable) : ∀ b ∈ after, b.Decodable := by
  intro b mem
  obtain ⟨a, held, same⟩ := repaired.exists_mem mem
  rw [same]
  exact decodable a held

end Document

/-- Every block afterwards was there, is a template, or was given with the mutation. -/
theorem Mutation.Decodable.apply {m : Mutation} (given : m.Decodable) {d : Document}
    (decodable : d.Decodable) (g : IdGenerator) : (m.apply d g).document.Decodable := by
  cases m with
  | insertBlock kind =>
    refine List.forall_mem_append.2 ⟨decodable, List.forall_mem_singleton.2 ?_⟩
    exact Block.decodable_template kind
  | updateBlock id block =>
    change (d.update id block).Decodable
    unfold Document.update
    split
    · exact decodable
    · intro b mem
      rcases List.mem_or_eq_of_mem_set mem with old | rfl
      · exact decodable b old
      · exact given
  | moveBlock id direction =>
    change (d.move id direction).Decodable
    unfold Document.move
    split
    · exact fun b mem => decodable b ((Document.swapAt_perm _ _).subset mem)
    · exact fun b mem => decodable b ((Document.swapAt_perm _ _).subset mem)
    · exact decodable
  | removeBlock id => exact fun b mem => decodable b (List.mem_of_mem_filter mem)
  | duplicateBlock id =>
    change (d.duplicate id g).1.Decodable
    unfold Document.duplicate
    split
    · next block _ found =>
      intro b mem
      rcases List.eq_or_mem_of_mem_insertIdx mem with rfl | old
      · exact decodable block (List.mem_of_find?_eq_some found)
      · exact decodable b old
    · exact decodable
  | updateSettings settings => exact decodable

namespace Session

def Operation.Decodable : Operation → Prop
  | .apply m => m.Decodable
  | _ => True

/-- A session as it can come about when the projects and blocks that are put into it are decodable,
as decoded ones and templates are. -/
inductive Decoded : Session → Prop
  | load {tree : FileTree} {p : Path} {s : Session} : load tree p = .ok s → Decoded s
  | start {project : Project} (g : IdGenerator) : project.Decodable → Decoded (start project g)
  | perform {s : Session} {op : Operation} : Decoded s → op.Decodable → Decoded (s.perform op)
  | prefer {s : Session} (preferences : Preferences) : Decoded s → Decoded { s with preferences }
  | file {s : Session} (path : Option Path) : Decoded s → Decoded { s with path }

theorem Decoded.run {s : Session} {ops : List Operation} (decoded : Decoded s)
    (given : ∀ op ∈ ops, op.Decodable) : Decoded (s.run ops) := by
  induction ops generalizing s with
  | nil => exact decoded
  | cons op ops ih =>
    obtain ⟨here, rest⟩ := List.forall_mem_cons.1 given
    exact ih (decoded.perform here) rest

theorem load_eq_ok {tree : FileTree} {p : Path} {s : Session} : load tree p = .ok s ↔
    ∃ project, Project.load tree p = .ok project ∧ s = ofProject p project := by
  unfold load
  cases Project.load tree p <;> simp [Except.map, eq_comm]

theorem Decoded.reachable {s : Session} (decoded : Decoded s) : Reachable s := by
  induction decoded with
  | load loaded =>
    obtain ⟨project, _, rfl⟩ := load_eq_ok.1 loaded
    exact .file _ (.start project _)
  | start g _ => exact .start _ g
  | perform _ _ ih => exact ih.perform _
  | prefer preferences _ ih => exact ih.prefer preferences
  | file path _ ih => exact ih.file path

theorem decodable_start {project : Project} (decodable : project.Decodable) (g : IdGenerator) :
    ∀ d ∈ (start project g).history.snapshots, d.Decodable := by
  intro d held
  rw [List.mem_singleton.1 held]
  exact (project.document.repairIds_repaired _).decodable decodable

theorem Decoded.decodable {s : Session} (decoded : Decoded s) :
    ∀ d ∈ s.history.snapshots, d.Decodable := by
  induction decoded with
  | load loaded =>
    obtain ⟨project, held, rfl⟩ := load_eq_ok.1 loaded
    obtain ⟨text, _, read⟩ := Project.load_eq_ok.1 held
    exact decodable_start (Project.decodable_of_ofText read) _
  | start g decodable => exact decodable_start decodable g
  | @perform s op _ given ih =>
    intro d held
    rcases snapshots_perform held with old | ⟨m, rfl, rfl⟩
    · exact ih d old
    · exact Mutation.Decodable.apply given (ih _ s.history.current_mem_snapshots) s.ids
  | prefer _ _ ih => exact ih
  | file _ _ ih => exact ih

theorem not_mem_mintedBy {s : Session} {id : InstanceId} (cover : s.ids.Covers id)
    (ops : List Operation) (bounded : (s.run ops).ids.count ≤ counterLimit) :
    id ∉ s.mintedBy ops := by
  induction ops generalizing s with
  | nil => exact List.not_mem_nil
  | cons op ops ih =>
    have step := Nat.le_trans (run_reaches ops (s.perform op)).2 bounded
    intro mem
    rcases List.mem_append.1 mem with now | later
    · exact (minted?_spec (Option.mem_toList.1 now) step).2 id cover rfl
    · exact ih (cover.mono (s.perform_reaches op)) bounded later

/-- An identified document needs no repair, so a session over it starts with what it holds. -/
theorem ofProject_of_identified {project : Project} (identified : project.document.Identified)
    (p : Path) : ofProject p project =
      { history := .new project.document,
        ids := (project.generatorFor p.text).resume project.document.ids,
        preferences := project.preferences,
        path := some p } := by
  rw [ofProject, start, identified.repairIds]

theorem stores_of_saveAs {s saved : Session} {tree after : FileTree} {p : Path}
    (save : s.saveAs tree p = .ok (saved, after)) : after.Stores p s.project.toText := by
  unfold saveAs Project.save at save
  split at save
  · next written =>
    cases save
    exact FileTree.stores_of_save written
  · cases save

/--
A session over decoded projects and blocks is reopened from where it was saved: with the document,
which needs no repair, and the preferences, and with nothing to undo, to redo or selected. Saving it
again writes what is stored, and what it mints is new to the document.
-/
theorem reopens_as_saved {s saved : Session} {tree after : FileTree} {p : Path}
    (decoded : Decoded s) (save : s.saveAs tree p = .ok (saved, after)) :
    let t := ofProject p s.project
    load after p = .ok t ∧ t.document = s.document ∧ t.preferences = s.preferences ∧
      (∀ g, s.document.repairIds g = (s.document, g)) ∧
      t.history.undo? = none ∧ t.history.redo? = none ∧ t.selected = none ∧
      after.find? p = some (.file s.project.toText) ∧ t.project.toText = s.project.toText ∧
      t.save after = .ok after ∧
      ∀ ops, (t.run ops).ids.count ≤ counterLimit →
        ∀ id ∈ t.mintedBy ops, id ∉ s.document.ids := by
  have identified : s.project.document.Identified :=
    decoded.reachable.identified _ s.history.current_mem_snapshots
  have decodable : s.project.Decodable := decoded.decodable _ s.history.current_mem_snapshots
  have stored := stores_of_saveAs save
  have loaded : load after p = .ok (ofProject p s.project) :=
    load_eq_ok.2 ⟨_, Project.load_of_stores stored (Project.ofText_toText decodable), rfl⟩
  rw [ofProject_of_identified identified] at loaded ⊢
  intro t
  have same : t.save after = .ok after := by
    change s.project.save after p = .ok after
    rw [Project.save, stored.save_same]
  refine ⟨loaded, rfl, rfl, identified.repairIds, rfl, rfl, rfl, stored.find?, rfl, same, ?_⟩
  intro ops bounded id minted old
  exact not_mem_mintedBy (s := t) (IdGenerator.resume_covers old _) ops bounded minted

def pagePath : Path := ⟨"page.json"⟩

def draft : Session :=
  (start {} (.ofKey pagePath.text)).run
    [.apply (.insertBlock .text), .apply (.insertBlock .hero), .undo,
      .apply (.updateBlock ⟨"2871f0e0-1"⟩ BlockKind.faq.template)]

/-- The id of the block that was taken back is minted again, since it is not in the document. -/
theorem reopens_draft :
    let after : FileTree := { files := [(["page.json"], draft.project.toText)] }
    let t := ofProject pagePath draft.project
    let ops : List Operation := [.apply (.insertBlock .hero)]
    Decoded draft ∧ draft.saveAs {} pagePath = .ok ({ draft with path := some pagePath }, after) ∧
      load after pagePath = .ok t ∧ t.document = draft.document ∧ t.save after = .ok after ∧
      (t.run ops).ids.count ≤ counterLimit ∧ t.mintedBy ops = [⟨"2871f0e0-2"⟩] ∧
      ∀ id ∈ t.mintedBy ops, id ∉ draft.document.ids := by
  intro after t ops
  have decoded : Decoded draft := by
    have empty : Decoded (start {} (.ofKey pagePath.text)) := .start _ fun _ none => nomatch none
    refine empty.run ?_
    simp only [List.forall_mem_cons]
    exact ⟨trivial, trivial, trivial, Block.decodable_template .faq, fun _ none => nomatch none⟩
  have segments : pagePath.segments = ["page.json"] := Path.segments_of_not_mem (by decide)
  have written : ∀ text, FileTree.save {} pagePath text =
      some { files := [(["page.json"], text)] } := by
    intro text
    simp only [FileTree.save, FileTree.write, FileTree.place?, segments]
    rfl
  have save : draft.saveAs {} pagePath = .ok ({ draft with path := some pagePath }, after) := by
    rw [saveAs, Project.save, written]
    rfl
  obtain ⟨loaded, document, _, _, _, _, _, _, _, same, fresh⟩ := reopens_as_saved decoded save
  exact ⟨decoded, save, loaded, document, same, by decide +kernel, by decide +kernel,
    fresh ops (by decide +kernel)⟩

end Session
end PageBuilder

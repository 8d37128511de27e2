import Highlighter.CommandLine.Run
import Highlighter.Proofs.Files
import Highlighter.Proofs.Sources

namespace Highlighter.CommandLine

/-- The file of a day's log in the directory of a user. -/
def logIn (own day : String) : String := Path.join (Path.join own "logs") ("scopeline.log." ++ day)

section Opening

variable (env : Environment) (now : Circumstances) (tree : FileTree)

/-- How a tree is left when a run has opened its log. Where a user has no directory, or none can be made for logs, the
run goes without a log. -/
inductive LogOpens : FileTree → Prop
  | nowhere : OwnDirectory env none → LogOpens tree
  | noDirectory {own problem after} : OwnDirectory env (some own) →
      tree.makeDirectory (Path.join own "logs") = (some problem, after) → LogOpens after
  | opened {own made after} : OwnDirectory env (some own) →
      tree.makeDirectory (Path.join own "logs") = (none, made) →
      made.append (logIn own now.day) now.logged = .ok after → LogOpens after

/-- The log can not be opened in its directory. -/
inductive LogRefused : Prop
  | intro {own made problem} : OwnDirectory env (some own) →
      tree.makeDirectory (Path.join own "logs") = (none, made) →
      made.append (logIn own now.day) now.logged = .error problem → LogRefused

end Opening

variable {env : Environment} {now : Circumstances} {tree after : FileTree}

theorem openLog_nowhere (isOwn : OwnDirectory env none) :
    openLog env now.day now.logged tree = .ok (some .noPlace, tree) := by
  rw [openLog, Environment.makeLogDirectory, Environment.logDirectory?, ownDirectory_iff.mp isOwn]
  rfl

theorem openLog_own {own : String} (isOwn : OwnDirectory env (some own)) :
    openLog env now.day now.logged tree = match tree.makeDirectory (Path.join own "logs") with
      | (some problem, made) => .ok (some (.noDirectory (Path.join own "logs") problem), made)
      | (none, made) => (made.append (logIn own now.day) now.logged).map fun after => (none, after) := by
  rw [openLog, Environment.makeLogDirectory, Environment.logDirectory?, ownDirectory_iff.mp isOwn, Option.map_some]
  dsimp only
  rcases tree.makeDirectory (Path.join own "logs") with ⟨_ | problem, made⟩ <;> rfl

theorem LogOpens.openLog (opens : LogOpens env now tree after) :
    ∃ problem, openLog env now.day now.logged tree = .ok (problem, after) := by
  cases opens with
  | nowhere isOwn => exact ⟨_, openLog_nowhere isOwn⟩
  | noDirectory isOwn making =>
    rw [openLog_own isOwn, making]
    exact ⟨_, rfl⟩
  | opened isOwn making opened =>
    simp only [openLog_own isOwn, making, opened]
    exact ⟨_, rfl⟩

theorem LogRefused.openLog (refused : LogRefused env now tree) :
    ∃ problem, openLog env now.day now.logged tree = .error problem := by
  obtain ⟨isOwn, making, refused⟩ := refused
  simp only [openLog_own isOwn, making, refused]
  exact ⟨_, rfl⟩

/-- A log is opened, or else it can not be. -/
theorem opens_or_refused (env : Environment) (now : Circumstances) (tree : FileTree) :
    (∃ after, LogOpens env now tree after) ∨ LogRefused env now tree := by
  rcases directory : env.directory? with _ | own
  · exact .inl ⟨tree, .nowhere (ownDirectory_iff.mpr directory)⟩
  · have isOwn := ownDirectory_iff.mpr directory
    rcases making : tree.makeDirectory (Path.join own "logs") with ⟨_ | problem, made⟩
    · rcases opening : made.append (logIn own now.day) now.logged with problem | after
      · exact .inr (.intro isOwn making opening)
      · exact .inl ⟨after, .opened isOwn making opening⟩
    · exact .inl ⟨made, .noDirectory isOwn making⟩

theorem LogOpens.not_refused (opens : LogOpens env now tree after) : ¬LogRefused env now tree := by
  intro refused
  obtain ⟨_, opened⟩ := opens.openLog
  obtain ⟨_, failed⟩ := refused.openLog
  cases opened.symm.trans failed

theorem LogOpens.unique {other : FileTree} (first : LogOpens env now tree after)
    (second : LogOpens env now tree other) : after = other := by
  obtain ⟨_, opened⟩ := first.openLog
  obtain ⟨_, reopened⟩ := second.openLog
  cases opened.symm.trans reopened
  rfl

/-- Where neither a log nor a directory for it is there, both are made. -/
theorem LogOpens.of_free {own : String} {directory file : Location} (isOwn : OwnDirectory env (some own))
    (leads : tree.target (Path.join own "logs") = .ok ⟨directory, false⟩) (free : tree.node? directory = none)
    (log : (tree.put directory .directory).target (logIn own now.day) = .ok ⟨file, false⟩)
    (noLog : (tree.put directory .directory).node? file = none) :
    LogOpens env now tree ((tree.put directory .directory).put file (.file now.logged)) := by
  have some_ : Path.join own "logs" ≠ "" := by
    intro empty
    rw [empty] at leads
    cases leads
  have making : tree.makeDirectory (Path.join own "logs") = (none, tree.put directory .directory) := by
    refine FileTree.makeDirectory_of_addDirectory some_ ?_
    rw [FileTree.addDirectory, leads, ok_bind, free]
    rfl
  have missing : (tree.put directory .directory).read (logIn own now.day) = .error .notFound := by
    rw [FileTree.read, FileTree.find, log, ok_bind, noLog]
    rfl
  refine .opened isOwn making ?_
  rw [FileTree.append, missing]
  exact FileTree.write_eq_ok.mpr ⟨file, log, by simp [noLog], by simp [Except.toOption]⟩

/-- The files of a tree are still there when the log has been opened, and none but the log is changed. -/
theorem LogOpens.read (opens : LogOpens env now tree after) {path : String} {bytes : ByteArray}
    (found : tree.read path = .ok bytes) : after.read path = .ok bytes ∨
      ∃ own, OwnDirectory env (some own) ∧ after.target path = after.target (logIn own now.day) := by
  cases opens with
  | nowhere => exact .inl found
  | @noDirectory own _ _ _ made =>
    have grows := tree.grows_makeDirectory (Path.join own "logs")
    rw [made] at grows
    exact .inl (grows.read found)
  | @opened own _ _ isOwn made opened =>
    have grows := tree.grows_makeDirectory (Path.join own "logs")
    rw [made] at grows
    exact (FileTree.read_of_append opened (grows.read found)).imp_right fun log => ⟨own, isOwn, log⟩

end Highlighter.CommandLine

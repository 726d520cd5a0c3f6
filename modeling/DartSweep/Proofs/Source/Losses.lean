import DartSweep.Proofs.Edit.Slices
import DartSweep.Proofs.Source.Outcome

/-!
# The lines that pruning takes

Pruning takes the dead imports and the lines of the getters that its passes delete. No other line
is missing from what it leaves, blank ones apart.
-/
namespace DartSweep

def deadLines (dead : List Text) (source : Text) : List Text :=
  (splitLines source).filter (isDeadImport dead)

/-- The lines of all getters that the sweep deleted. -/
def Sweep.slices (sweep : Sweep) : List Text :=
  sweep.passes.flatMap fun pass => pass.plan.slices pass.lines

theorem Sweep.slices_cons (pass : Pass) (later : Sweep) :
    Sweep.slices ⟨pass :: later.passes, later.content, later.fault⟩ =
      pass.plan.slices pass.lines ++ later.slices :=
  List.flatMap_cons

/-- The lines that pruning takes from the source for a reason of their own. -/
def lostLines (settings : Settings) (source : Text) : List Text :=
  deadLines settings.deadImports source ++ (sweepSource settings source).slices

private theorem holdsText_nil : holdsText [] = false :=
  rfl

private theorem perm_append_of_perm {whole part left gone taken : List Text}
    (hw : whole.Perm (part ++ gone)) (hp : part.Perm (left ++ taken)) :
    whole.Perm (left ++ (gone ++ taken)) :=
  calc
    List.Perm whole (part ++ gone) := hw
    List.Perm _ ((left ++ taken) ++ gone) := hp.append_right gone
    _ = left ++ (taken ++ gone) := List.append_assoc left taken gone
    List.Perm _ (left ++ (gone ++ taken)) := List.perm_append_comm.append_left left

private theorem perm_dropImports (dead : List Text) (source : Text) :
    ((splitLines source).filter holdsText).Perm
      ((splitLines (dropImports dead source)).filter holdsText ++
        (deadLines dead source).filter holdsText) := by
  have hparts := (List.filter_append_perm (isDeadImport dead) (splitLines source)).filter holdsText
  rw [List.filter_append] at hparts
  rw [dropImports_eq, filter_splitLines_joinLines holdsText_nil List.filter_sublist]
  exact hparts.symm.trans List.perm_append_comm

private theorem perm_sweep (content : Text) :
    ((splitLines content).filter holdsText).Perm
      ((splitLines (sweep content).content).filter holdsText ++
        (sweep content).slices.filter holdsText) := by
  induction content using sweep_induction with
  | failed content fault hf => simp [Sweep.slices]
  | clean content hf => simp [Sweep.slices]
  | pass content plan later hf hne ih =>
    have hpass := plan.perm_apply (splitLines content)
    rw [filter_splitLines_joinLines holdsText_nil (plan.apply_sublist _)] at ih
    rw [Sweep.slices_cons, List.filter_append]
    exact perm_append_of_perm hpass ih

/-- A line that is not blank is left by pruning or is one of the lines it takes for a reason. -/
theorem perm_sweepSource (settings : Settings) (source : Text) :
    ((splitLines source).filter holdsText).Perm
      ((splitLines (sweepSource settings source).content).filter holdsText ++
        (lostLines settings source).filter holdsText) := by
  rw [lostLines, List.filter_append]
  exact perm_append_of_perm (perm_dropImports settings.deadImports source)
    (perm_sweep (dropImports settings.deadImports source))

end DartSweep

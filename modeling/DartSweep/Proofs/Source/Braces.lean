import DartSweep.Proofs.Source.Census
import DartSweep.Proofs.Source.Losses
import Mathlib.Algebra.BigOperators.Group.List.Basic

/-!
# Braces on the lines that pruning takes

The census weighs the braces of a whole source. So the lines that pruning takes open as many braces
as they close all together, while the lines of a single getter need not.
-/
namespace DartSweep

def braceExcess (lines : List Text) : Int :=
  (lines.flatten.count '{' : Int) - lines.flatten.count '}'

theorem braceExcess_append (lines others : List Text) :
    braceExcess (lines ++ others) = braceExcess lines + braceExcess others := by
  simp only [braceExcess, List.flatten_append, List.count_append]
  omega

private theorem braceExcess_perm {lines others : List Text} (h : lines.Perm others) :
    braceExcess lines = braceExcess others := by
  have hcount (c : Char) : lines.flatten.count c = others.flatten.count c :=
    h.flatten.count_eq c
  rw [braceExcess, braceExcess, hcount, hcount]

private theorem count_eq_zero_of_isBlank {line : Text} (h : isBlank line = true) {c : Char}
    (hc : isBlankChar c = false) : line.count c = 0 := by
  apply List.count_eq_zero_of_not_mem
  intro hm
  rw [isBlank, List.all_eq_true] at h
  simp [h c hm] at hc

private theorem count_flatten_filter {c : Char} (hc : isBlankChar c = false) (lines : List Text) :
    (lines.filter holdsText).flatten.count c = lines.flatten.count c := by
  induction lines with
  | nil => rfl
  | cons line rest ih =>
    rw [List.filter_cons]
    cases hb : isBlank line with
    | true => simp [holdsText, hb, ih, count_eq_zero_of_isBlank hb hc]
    | false => simp [holdsText, hb, ih]

private theorem braceExcess_filter (lines : List Text) :
    braceExcess (lines.filter holdsText) = braceExcess lines := by
  rw [braceExcess, braceExcess, count_flatten_filter (by decide), count_flatten_filter (by decide)]

private theorem count_join {sep c : Char} (hc : c ≠ sep) (fields : List Text) :
    (join sep fields).count c = fields.flatten.count c := by
  induction fields with
  | nil => rfl
  | cons field fields ih =>
    by_cases hf : fields = []
    · simp [hf, join]
    · rw [join_cons sep field hf, List.flatten_cons, List.count_append, List.count_append,
        List.count_cons_of_ne hc.symm, ih]

theorem braceBalance_joinLines (keyword : Text) (lines : List Text) :
    (Census.ofSource keyword (joinLines lines)).braceBalance = braceExcess lines := by
  have hcount {c : Char} (hc : c ≠ '\n') : (joinLines lines).count c = lines.flatten.count c :=
    count_join hc lines
  rw [Census.ofSource, braceExcess, hcount (by decide), hcount (by decide)]

private theorem braceBalance_eq (keyword source : Text) :
    (Census.ofSource keyword source).braceBalance = braceExcess (splitLines source) := by
  rw [← braceBalance_joinLines keyword, joinLines_splitLines]

/-- A plan takes the braces of its slices away, and squeezing takes none. -/
theorem DeletionPlan.braceExcess_apply (plan : DeletionPlan) (lines : List Text) :
    braceExcess (plan.apply lines) = braceExcess lines - braceExcess (plan.slices lines) := by
  have hexcess := braceExcess_perm (plan.perm_apply lines)
  rw [braceExcess_append] at hexcess
  simp only [braceExcess_filter] at hexcess
  omega

/-- The braces of a source are those that pruning leaves and those that it takes. -/
theorem braceExcess_sweepSource (settings : Settings) (source : Text) :
    braceExcess (splitLines source) =
      braceExcess (splitLines (sweepSource settings source).content) +
        braceExcess (lostLines settings source) := by
  have hexcess := braceExcess_perm (perm_sweepSource settings source)
  rw [braceExcess_append] at hexcess
  simpa only [braceExcess_filter] using hexcess

private theorem exists_perm_flatMap {α β : Type} [DecidableEq α] (f : α → List β) {x : α}
    {items : List α} (h : x ∈ items) : ∃ others, (items.flatMap f).Perm (f x ++ others) :=
  ⟨(items.erase x).flatMap f, (List.perm_cons_erase h).flatMap_right f⟩

private theorem exists_perm_lostLines {settings : Settings} {source : Text} {pass : Pass}
    {span : Span} (hp : pass ∈ (sweepSource settings source).passes) (hs : span ∈ pass.plan.spans) :
    ∃ others, (lostLines settings source).Perm (span.slice pass.lines ++ others) := by
  obtain ⟨passes, hpasses⟩ := exists_perm_flatMap (fun pass => pass.plan.slices pass.lines) hp
  obtain ⟨spans, hspans⟩ := exists_perm_flatMap (fun span => span.slice pass.lines) hs
  refine ⟨spans ++ passes ++ deadLines settings.deadImports source, ?_⟩
  rw [lostLines, ← List.append_assoc, ← List.append_assoc]
  refine List.perm_append_comm.trans (List.Perm.append_right _ ?_)
  exact hpasses.trans (hspans.append_right _)

/-- What pruning takes opens as many braces as it closes, so a getter that does not is made up for
by the other lines taken. Where the lines taken do not weigh up and all class keywords stay, pruning
is refused for the braces. -/
theorem prune_weighs_braces (settings : Settings) (source : Text) :
    (∀ pruned, prune settings source = .ok pruned →
      braceExcess (lostLines settings source) = 0 ∧
        ∀ pass ∈ (sweepSource settings source).passes, ∀ span ∈ pass.plan.spans,
          ∃ others, (lostLines settings source).Perm (span.slice pass.lines ++ others) ∧
            braceExcess (span.slice pass.lines) = -braceExcess others) ∧
      ((sweepSource settings source).fault = none →
        occurrences settings.classKeyword source =
          occurrences settings.classKeyword (sweepSource settings source).content →
        braceExcess (lostLines settings source) ≠ 0 →
        prune settings source = .error (.braceBalance (braceExcess (splitLines source))
          (braceExcess (splitLines source) - braceExcess (lostLines settings source)))) := by
  have hexcess := braceExcess_sweepSource settings source
  constructor
  · intro pruned h
    have hlost : braceExcess (lostLines settings source) = 0 := by
      obtain ⟨-, rfl, hc⟩ := (prune_eq_ok_iff settings source pruned).mp h
      rcases hc with he | ⟨census, hc⟩
      · dsimp only at he
        rw [he] at hexcess
        omega
      · have hkept := congrArg Census.braceBalance (Census.check_eq_ok_iff.mp hc).1
        rw [braceBalance_eq, braceBalance_eq] at hkept
        dsimp only at hkept
        omega
    refine ⟨hlost, ?_⟩
    intro pass hp span hs
    obtain ⟨others, hperm⟩ := exists_perm_lostLines hp hs
    have hsum := braceExcess_perm hperm
    rw [braceExcess_append, hlost] at hsum
    exact ⟨others, hperm, by omega⟩
  · intro hf hk hne
    have hleft : braceExcess (splitLines (sweepSource settings source).content) =
        braceExcess (splitLines source) - braceExcess (lostLines settings source) := by
      omega
    have hdiff : (sweepSource settings source).content ≠ source := by
      intro he
      rw [he] at hexcess
      omega
    refine (prune_eq_error_iff settings source _).mpr (Or.inr ⟨hf, hdiff, ?_⟩)
    rw [Census.check_of_braceBalance_ne hk, braceBalance_eq, braceBalance_eq, hleft]
    rw [braceBalance_eq, braceBalance_eq]
    omega

/-- The only pass over two getters that quote a brace each, one that opens and one that closes. -/
def quotingPass : Pass where
  lines :=
    ["class A \x7b".toList, "/// UI display type for generic rendering.".toList,
      "ResultDisplayType get displayType => kinds['\x7b'];".toList, "\x7d".toList,
      "class B \x7b".toList, "/// UI display type for generic rendering.".toList,
      "ResultDisplayType get displayType => kinds['\x7d'];".toList, "\x7d".toList]
  plan := { spans := [⟨1, 3⟩, ⟨5, 7⟩] }

def quotingLeft : List Text :=
  ["class A \x7b".toList, "\x7d".toList, "class B \x7b".toList, "\x7d".toList]

def openingPass : Pass where
  lines :=
    ["class A \x7b".toList, "/// UI display type for generic rendering.".toList,
      "ResultDisplayType get displayType => kinds['\x7b'];".toList, "\x7d".toList]
  plan := .single ⟨1, 3⟩

private theorem sweepSource_quoting :
    sweepSource importless (joinLines quotingPass.lines) =
      ⟨[quotingPass], joinLines quotingLeft, none⟩ :=
  sweepSource_of_pass (by rfl) (by rfl) (by rfl) (by simp [quotingPass]) (by rfl) (by rfl)

private theorem sweepSource_opening :
    sweepSource importless (joinLines openingPass.lines) =
      ⟨[openingPass], joinLines ["class A \x7b".toList, "\x7d".toList], none⟩ :=
  sweepSource_of_pass (by rfl) (by rfl) (by rfl) (by simp [openingPass]) (by rfl) (by rfl)

private theorem prune_quoting :
    prune importless (joinLines quotingPass.lines) = .ok ⟨joinLines quotingLeft, 2⟩ := by
  have hcensus : Census.ofSource importless.classKeyword (joinLines quotingPass.lines) =
      Census.ofSource importless.classKeyword (joinLines quotingLeft) := by
    decide +kernel
  exact prune_of_census_eq sweepSource_quoting hcensus

/-- A getter with an opening brace too many is removed, because another has a closing one. -/
theorem unbalanced_getter_removed :
    prune importless (joinLines quotingPass.lines) = .ok ⟨joinLines quotingLeft, 2⟩ ∧
      quotingPass ∈ (sweepSource importless (joinLines quotingPass.lines)).passes ∧
      ⟨1, 3⟩ ∈ quotingPass.plan.spans ∧
      ((⟨1, 3⟩ : Span).slice quotingPass.lines).flatten.count '{' = 1 ∧
      ((⟨1, 3⟩ : Span).slice quotingPass.lines).flatten.count '}' = 0 := by
  refine ⟨prune_quoting, ?_, by simp [quotingPass], by decide +kernel, by decide +kernel⟩
  rw [sweepSource_quoting]
  exact List.mem_singleton_self _

theorem prune_weighs_braces_quoting :
    prune importless (joinLines quotingPass.lines) = .ok ⟨joinLines quotingLeft, 2⟩ ∧
      braceExcess (lostLines importless (joinLines quotingPass.lines)) = 0 ∧
      quotingPass ∈ (sweepSource importless (joinLines quotingPass.lines)).passes ∧
      ⟨1, 3⟩ ∈ quotingPass.plan.spans ∧
      (∃ others, (lostLines importless (joinLines quotingPass.lines)).Perm
          ((⟨1, 3⟩ : Span).slice quotingPass.lines ++ others) ∧
        braceExcess ((⟨1, 3⟩ : Span).slice quotingPass.lines) = -braceExcess others) ∧
      braceExcess (lostLines importless (joinLines openingPass.lines)) = 1 ∧
      prune importless (joinLines openingPass.lines) = .error (.braceBalance 1 0) := by
  have hspan : ⟨1, 3⟩ ∈ quotingPass.plan.spans := by simp [quotingPass]
  have hpass : quotingPass ∈ (sweepSource importless (joinLines quotingPass.lines)).passes := by
    rw [sweepSource_quoting]
    exact List.mem_singleton_self _
  have hlost : braceExcess (lostLines importless (joinLines openingPass.lines)) = 1 := by
    rw [lostLines, sweepSource_opening]
    decide +kernel
  have hsource : braceExcess (splitLines (joinLines openingPass.lines)) = 1 := by
    decide +kernel
  obtain ⟨hzero, hranges⟩ := (prune_weighs_braces importless _).1 _ prune_quoting
  have hrefused := (prune_weighs_braces importless (joinLines openingPass.lines)).2
    (by rw [sweepSource_opening]) (by rw [sweepSource_opening]; decide +kernel)
    (by rw [hlost]; decide)
  rw [hlost, hsource] at hrefused
  exact ⟨prune_quoting, hzero, hpass, hspan, hranges _ hpass _ hspan, hlost, hrefused⟩

end DartSweep

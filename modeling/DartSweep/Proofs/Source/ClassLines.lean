import DartSweep.Proofs.Source.Census
import DartSweep.Proofs.Source.Outcome
import DartSweep.Proofs.Text.Occurrences

/-!
# Lines with the class keyword

Pruning only takes lines away, and the census allows it to take none that holds the class keyword.
So these lines all stay, and a census that fails has lost some of them.
-/
namespace DartSweep

section
variable {keyword content source : Text}

private theorem occurrences_excerpt_le (hne : keyword ≠ []) (hn : '\n' ∉ keyword)
    (h : Excerpt content source) : occurrences keyword content ≤ occurrences keyword source := by
  obtain ⟨lines, hs, rfl⟩ := h
  have hsource := occurrences_joinLines hne hn (splitLines source)
  rw [joinLines_splitLines] at hsource
  rw [occurrences_joinLines hne hn, hsource]
  exact (hs.map _).sum_le_sum (by simp)

private theorem filter_occursIn_excerpt (hne : keyword ≠ []) (hn : '\n' ∉ keyword)
    (h : Excerpt content source) (hc : occurrences keyword source = occurrences keyword content) :
    (splitLines source).filter (occursIn keyword) =
      (splitLines content).filter (occursIn keyword) := by
  have hempty : occursIn keyword [] = false := by simpa [occursIn] using hne
  have hpos : occursIn keyword = fun line => decide (0 < occurrences keyword line) := by
    funext line
    rw [Bool.eq_iff_iff, decide_eq_true_iff, occurrences_pos_iff hne]
  obtain ⟨lines, hs, rfl⟩ := h
  have hsource := occurrences_joinLines hne hn (splitLines source)
  rw [joinLines_splitLines] at hsource
  rw [hsource, occurrences_joinLines hne hn] at hc
  rw [filter_splitLines_joinLines hempty hs, hpos]
  exact (filter_pos_eq_of_sum_eq hs hc.symm).symm

end

/-- The lines with the class keyword are the same before and after pruning. A source is refused for
its class keywords only if some of them would be lost. -/
theorem prune_keeps_class_lines {settings : Settings} (hne : settings.classKeyword ≠ [])
    (hn : '\n' ∉ settings.classKeyword) (source : Text) :
    (∀ pruned, prune settings source = .ok pruned →
      (splitLines source).filter (occursIn settings.classKeyword) =
        (splitLines pruned.content).filter (occursIn settings.classKeyword)) ∧
      ∀ before after, prune settings source = .error (.classCount before after) →
        after < before := by
  have hx := excerpt_sweepSource settings source
  constructor
  · intro pruned h
    obtain ⟨-, rfl, hc⟩ := (prune_eq_ok_iff settings source pruned).mp h
    rcases hc with he | hc
    · rw [he]
    · obtain ⟨census, hc⟩ := hc
      exact filter_occursIn_excerpt hne hn hx (Census.check_eq_ok hc)
  · intro before after h
    rcases (prune_eq_error_iff settings source _).mp h with hf | hc
    · obtain ⟨marker, signature, hf⟩ := fault_sweep hf
      simp at hf
    · obtain ⟨rfl, rfl, hdiff⟩ := Census.check_eq_classCount hc.2.2
      have hle := occurrences_excerpt_le hne hn hx
      omega

/-- The only pass over a getter whose doc comment speaks of a class. -/
def documentedPass : Pass where
  lines :=
    ["/// UI display type for generic rendering.".toList, "/// class A".toList,
      "ResultDisplayType get displayType;".toList]
  plan := .single ⟨0, 3⟩

theorem prune_documented :
    prune importless (joinLines documentedPass.lines) = .error (.classCount 1 0) := by
  have hsplit : splitLines (joinLines documentedPass.lines) = documentedPass.lines := by rfl
  have hlive : dropImports importless.deadImports (joinLines documentedPass.lines) =
      joinLines documentedPass.lines := by
    rw [dropImports_eq, hsplit]
    rfl
  have hclean : sweep (joinLines []) = ⟨[], [], none⟩ := sweep_of_clean (by rfl)
  have hresult : documentedPass.result = [] := by rfl
  have hbefore : Census.ofSource importless.classKeyword (joinLines documentedPass.lines) =
      ⟨1, 0⟩ := by
    decide +kernel
  rw [prune_eq_error_iff, sweepSource, hlive,
    sweep_joinLines_of_pass hsplit (by rfl) (by simp [documentedPass]), hresult, hclean]
  refine Or.inr ⟨rfl, by simp [documentedPass, joinLines, join], ?_⟩
  rw [Census.check, hbefore]
  rfl

theorem prune_keeps_class_lines_stacked :
    importless.classKeyword ≠ [] ∧ '\n' ∉ importless.classKeyword ∧
      prune importless stackedSource = .ok ⟨joinLines stackedLeft, 2⟩ ∧
      (splitLines stackedSource).filter (occursIn importless.classKeyword) =
        (splitLines (joinLines stackedLeft)).filter (occursIn importless.classKeyword) ∧
      prune importless (joinLines documentedPass.lines) = .error (.classCount 1 0) ∧ 0 < 1 := by
  have hne : importless.classKeyword ≠ [] := by simp [importless]
  have hn : '\n' ∉ importless.classKeyword := by simp [importless]
  have hkept := (prune_keeps_class_lines hne hn stackedSource).1 _ prune_stacked
  have hlost := (prune_keeps_class_lines hne hn (joinLines documentedPass.lines)).2 1 0
    prune_documented
  exact ⟨hne, hn, prune_stacked, hkept, prune_documented, hlost⟩

end DartSweep

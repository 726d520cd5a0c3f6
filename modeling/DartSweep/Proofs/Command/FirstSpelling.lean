import DartSweep.Proofs.Command.Contribution

/-!
# Files behind first spellings

Duplicates are told by their components, but a file is opened as its path is written. So a file that
several arguments name is opened by the first of its spellings, and it is lost if that one ends in a
slash or a dot, or is too long, although another spelling leads to the file.
-/
namespace DartSweep

section
variable {fs : FileSystem}

private theorem resolve_of_closed {first path : Path} {location : Location} {bytes : ByteArray}
    (hc : first.components = path.components) (hr : fs.resolve path = .ok location)
    (hn : fs.node? location = some (.file bytes))
    (hclosed : first.ForDirectory ∨ 4095 < byteLength first) :
    fs.resolve first = .error .notDirectory ∨ fs.resolve first = .error .nameTooLong := by
  by_cases hl : byteLength first ≤ 4095
  · have hd : first.ForDirectory := hclosed.resolve_right (Nat.not_lt.mpr hl)
    rcases FileSystem.resolve_of_components hc hr hn hl with hok | ⟨-, herror, -⟩
    · have hnode := FileSystem.node?_of_forDirectory hok hd
      simp [hn] at hnode
    · exact Or.inl herror
  · exact Or.inr (FileSystem.resolve_of_tooLong hc hr (Nat.lt_of_not_le hl))

/-- What is not given as an argument was contributed because it leads to a file. -/
private theorem mem_arguments_of_lost {arguments : List Path} {contributions : List (List Path)}
    (hcontributions : List.Forall₂ (fun argument contributed =>
      contribution fs argument = .ok contributed) arguments contributions) {first : Path}
    (hfirst : first ∈ Path.distinct contributions.flatten)
    (hlost : fs.resolve first = .error .notDirectory ∨ fs.resolve first = .error .nameTooLong) :
    first ∈ arguments := by
  have hsource := (Path.distinct_sublist _).mem hfirst
  obtain ⟨given, hgiven, others, hothers, hin⟩ := (mem_flatten_iff hcontributions first).mp hsource
  rcases isFile_of_contribution hothers hin with hfile | rfl
  · obtain ⟨place, content, hplace, -⟩ := FileSystem.isFile_iff.mp hfile
    rcases hlost with herror | herror <;> simp [hplace] at herror
  · exact hgiven

end

/-- If all directories among the arguments can be listed, every file that a contributed path leads
to has a first spelling among the expanded paths, which leads to the same file if it does not end in
a slash or a dot and has at most 4095 bytes. If it does or has more, it is an argument as it was
given and leads nowhere. A directory that cannot be listed is an error. -/
theorem first_spelling_decides {fs : FileSystem} {arguments : List Path}
    (hsound : ∀ argument ∈ arguments, ∀ cause, ¬FaultyGlob fs argument cause) :
    ((∀ argument ∈ arguments, ∀ reason, ¬UnlistedDirectory fs argument reason) →
      ∃ paths, expand fs arguments = .ok paths ∧
        ∀ argument ∈ arguments, ∀ contributed, contribution fs argument = .ok contributed →
          ∀ path ∈ contributed, ∀ location bytes, fs.resolve path = .ok location →
            fs.node? location = some (.file bytes) →
              ∃ first ∈ paths, first.components = path.components ∧
                (¬first.ForDirectory → byteLength first ≤ 4095 →
                  fs.resolve first = .ok location) ∧
                (first.ForDirectory ∨ 4095 < byteLength first → first ∈ arguments ∧
                  (fs.resolve first = .error .notDirectory ∨
                    fs.resolve first = .error .nameTooLong))) ∧
      ((∃ argument ∈ arguments, ∃ reason, UnlistedDirectory fs argument reason) →
        ∃ argument reason, FirstUnlisted fs arguments argument reason ∧
          expand fs arguments = .error ⟨argument, .listing (.refused reason)⟩) := by
  refine ⟨fun hlisted => ?_, expand_of_unlistedDirectory hsound⟩
  obtain ⟨paths, he⟩ := exists_expand hsound hlisted
  obtain ⟨contributions, hcontributions, rfl⟩ := expand_eq_ok he
  refine ⟨_, he, ?_⟩
  intro argument hargument contributed hcontributed path hpath location bytes hr hn
  have hmem : path ∈ contributions.flatten :=
    (mem_flatten_iff hcontributions path).mpr
      ⟨argument, hargument, contributed, hcontributed, hpath⟩
  obtain ⟨first, hfirst, hc⟩ := Path.exists_mem_distinct hmem
  refine ⟨first, hfirst, hc, fun hopen hl => ?_, fun hclosed => ?_⟩
  · rcases FileSystem.resolve_of_components hc hr hn hl with hok | ⟨-, -, hd⟩
    · exact hok
    · exact absurd hd hopen
  · have hlost := resolve_of_closed hc hr hn hclosed
    exact ⟨mem_arguments_of_lost hcontributions hfirst hlost, hlost⟩

/-- The file is named twice, but is looked for only where it is not. -/
theorem slash_loses_file :
    let fs : FileSystem :=
      { nodes := [(["a.dart".toList], .file .empty)]
        workingDirectory := [] }
    expand fs ["a.dart/".toList, "a.dart".toList] = .ok ["a.dart/".toList] ∧
      contribution fs "a.dart".toList = .ok ["a.dart".toList] ∧
      fs.resolve "a.dart".toList = .ok ["a.dart".toList] ∧
      fs.node? ["a.dart".toList] = some (.file .empty) ∧
      fs.resolve "a.dart/".toList = .error .notDirectory := by
  exact ⟨by rfl, by rfl, by rfl, by rfl, by rfl⟩

/-- A file in a directory and one beside it, and a directory that cannot be listed. -/
def nestedFiles : FileSystem where
  nodes := [([['d']], .directory), ([['d'], "a.dart".toList], .file .empty),
    (["b.dart".toList], .file .empty), ([['p']], .directory)]
  workingDirectory := []
  refusals := [([['p']], "Permission denied (os error 13)")]

def spelledArguments : List Path :=
  ["d//a.dart".toList, "d/a.dart".toList, "b.dart/.".toList, "b.dart".toList]

theorem first_spelling_decides_nested :
    (∀ argument ∈ spelledArguments, ∀ cause, ¬FaultyGlob nestedFiles argument cause) ∧
      expand nestedFiles spelledArguments = .ok ["d//a.dart".toList, "b.dart/.".toList] ∧
      nestedFiles.resolve "d/a.dart".toList = .ok [['d'], "a.dart".toList] ∧
      nestedFiles.resolve "d//a.dart".toList = .ok [['d'], "a.dart".toList] ∧
      nestedFiles.resolve "b.dart".toList = .ok ["b.dart".toList] ∧
      (∀ location, nestedFiles.resolve "b.dart/.".toList ≠ .ok location) ∧
      ∃ argument reason, expand nestedFiles ["b.dart".toList, ['p']] =
        .error ⟨argument, .listing (.refused reason)⟩ := by
  have hsound : ∀ argument ∈ spelledArguments, ∀ cause, ¬FaultyGlob nestedFiles argument cause :=
    not_faultyGlob_of_plain (by decide)
  have hexpand : expand nestedFiles spelledArguments =
      .ok ["d//a.dart".toList, "b.dart/.".toList] := by rfl
  have hlisted : ∀ argument ∈ spelledArguments, ∀ reason,
      ¬UnlistedDirectory nestedFiles argument reason := by
    intro argument hmem
    obtain ⟨contributed, h⟩ := exists_contribution_of_expand hexpand argument hmem
    exact not_unlistedDirectory_of_contribution h
  obtain ⟨paths, he, hfiles⟩ := (first_spelling_decides hsound).1 hlisted
  obtain rfl := Except.ok.inj (hexpand.symm.trans he)
  obtain ⟨inner, hinner, hc, hopens, -⟩ := hfiles "d/a.dart".toList (by decide) _ (by rfl) _
    (List.mem_singleton_self _) [['d'], "a.dart".toList] .empty (by rfl) (by rfl)
  obtain ⟨outer, houter, hc', -, hlost⟩ := hfiles "b.dart".toList (by decide) _ (by rfl) _
    (List.mem_singleton_self _) ["b.dart".toList] .empty (by rfl) (by rfl)
  have hfirst : inner = "d//a.dart".toList := by
    rcases List.mem_pair.mp hinner with rfl | rfl
    · rfl
    · exact absurd hc (by decide)
  have hsecond : outer = "b.dart/.".toList := by
    rcases List.mem_pair.mp houter with rfl | rfl
    · exact absurd hc' (by decide)
    · rfl
  subst hfirst hsecond
  obtain ⟨-, hrefused⟩ := @first_spelling_decides nestedFiles ["b.dart".toList, ['p']]
    (not_faultyGlob_of_plain (by decide))
  obtain ⟨argument, reason, -, herror⟩ :=
    hrefused ⟨['p'], by decide, _, [['p']], by rfl, by rfl, by rfl⟩
  refine ⟨hsound, hexpand, by rfl, hopens (by decide) (by decide), by rfl, ?_,
    argument, reason, herror⟩
  intro location hok
  obtain ⟨-, herror⟩ := hlost (Or.inl ⟨['.'], by decide, by decide⟩)
  rcases herror with herror | herror <;> exact absurd (hok.symm.trans herror) (by simp)

end DartSweep

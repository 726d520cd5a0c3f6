import DartSweep.Proofs.Getter.Closing
import DartSweep.Proofs.Getter.Heads
import DartSweep.Proofs.Source.Outcome

/-!
# Where the spans of getters end

A one line getter ends with its head, wherever its declaration ends. A delimited getter ends on a
line that looks like the last line of its form, with the delimiters of that form level: a line that
levels them and looks otherwise is passed over, and the members below it may be taken as well. The
census notices neither, as long as braces and class keywords weigh up.
-/
namespace DartSweep

/-! ### One line getters -/

/-- The extent of a display type getter rests on the head alone. It ends on the same line whatever
stands behind the head, be it an arrow with its value further down, and whatever the lines below
are. -/
theorem oneLine_ends_with_head {lines : List Text} {index stop : Nat}
    (h : Marker.displayType.extentAt lines index = .oneLine stop) :
    ∃ signature before head after, stop = signature + 1 ∧
      Marker.displayType.SignatureAt lines index signature ∧
      lines[signature]? = some (before ++ (head ++ after)) ∧
      Marker.displayType.signature.HeadBetween before head after ∧
      ∀ other below, endsWord other = true →
        Marker.displayType.extentAt
          (lines.take signature ++ (before ++ (head ++ other)) :: below) index = .oneLine stop := by
  obtain ⟨signature, rfl, hs⟩ := extentAt_eq_oneLine_iff.mp h
  obtain ⟨before, head, after, hl, hhead⟩ := hs.exists_head
  refine ⟨signature, before, head, after, rfl, hs, hl, hhead, ?_⟩
  intro other below ho
  apply extentAt_eq_oneLine_iff.mpr
  exact ⟨signature, rfl, hs.replace hl hhead ho below⟩

/-- The only pass over a getter whose value stands on the line below the arrow. -/
def splitPass : Pass where
  lines :=
    ["class A \x7b".toList, "/// UI display type for generic rendering.".toList,
      "ResultDisplayType get displayType =>".toList, "    ResultDisplayType.simple;".toList,
      "\x7d".toList]
  plan := .single ⟨1, 3⟩

private theorem extentAt_split :
    Marker.displayType.extentAt splitPass.lines 1 = .oneLine 3 := by rfl

theorem oneLine_ends_with_head_split :
    Marker.displayType.extentAt splitPass.lines 1 = .oneLine 3 ∧
      ∃ signature before head after, 3 = signature + 1 ∧
        Marker.displayType.SignatureAt splitPass.lines 1 signature ∧
        splitPass.lines[signature]? = some (before ++ (head ++ after)) ∧
        Marker.displayType.signature.HeadBetween before head after ∧
        ∀ other below, endsWord other = true →
          Marker.displayType.extentAt
            (splitPass.lines.take signature ++ (before ++ (head ++ other)) :: below) 1 =
              .oneLine 3 :=
  ⟨extentAt_split, oneLine_ends_with_head extentAt_split⟩

/-- The line declares a whole getter in expression form: an arrow follows the head, and the line
ends with a semicolon. -/
def Signature.DeclaredOn (signature : Signature) (line : Text) : Prop :=
  ∃ before head after, line = before ++ (head ++ after) ∧
    signature.HeadBetween before head after ∧ occursIn "=>".toList after = true ∧
    ";".toList.isSuffixOf (trim line) = true

/-- The line of the signature does not declare the whole getter, and its value is left behind. -/
theorem split_getter_leaves_value :
    Marker.displayType.extentAt splitPass.lines 1 = .oneLine 3 ∧
      ¬(∃ line, splitPass.lines[2]? = some line ∧
        Marker.displayType.signature.DeclaredOn line) ∧
      prune importless (joinLines splitPass.lines) =
        .ok ⟨joinLines ["class A \x7b".toList, "    ResultDisplayType.simple;".toList,
          "\x7d".toList], 1⟩ := by
  have hdeclared : ¬∃ line, splitPass.lines[2]? = some line ∧
      Marker.displayType.signature.DeclaredOn line := by
    rintro ⟨line, hl, -, -, -, -, -, -, hsemicolon⟩
    obtain rfl : "ResultDisplayType get displayType =>".toList = line := Option.some.inj hl
    exact absurd hsemicolon (by decide +kernel)
  refine ⟨extentAt_split, hdeclared, ?_⟩
  exact prune_of_pass (by rfl) (by rfl) (by rfl) (by simp [splitPass]) (by rfl) (by rfl)
    (by decide +kernel)

/-! ### Block bodies -/

/-- A brace is opened on the lines from the first through the last, and as many are closed. -/
structure BracesClose (lines : List Text) (first last : Nat) : Prop where
  behind : first ≤ last
  opened : '{' ∈ charsThrough lines first last
  level : braceDepth lines first last = 0

/-- A getter with a block body ends on a closing brace that has a line for itself, the first such
line with the braces level. Below the range of the counters it ends where its braces first close if
that line holds nothing else, and otherwise it runs on. -/
theorem block_ends_on_lone_brace {lines : List Text} {index stop : Nat}
    (h : Marker.sections.extentAt lines index = .body stop .block) :
    ∃ signature last, stop = last + 1 ∧ Marker.sections.SignatureAt lines index signature ∧
      signature ≤ last ∧ BodyForm.block.EndsAt lines last ∧
      (2 ^ 32 : Int) ∣ braceDepth lines signature last ∧
      (∀ earlier < last, BracesClose lines signature earlier →
        ¬BodyForm.block.EndsAt lines earlier) ∧
      ((charsThrough lines signature last).length < 2 ^ 32 →
        ∃ first, IsLeast {i | BracesClose lines signature i} first ∧ first ≤ last ∧
          (first = last ↔ BodyForm.block.EndsAt lines first)) := by
  obtain ⟨signature, line, last, hs, -, -, hstop, hleast⟩ := Marker.exists_isLeast_closesAt h
  have hlast : BodyForm.block.ClosesAt lines signature last := hleast.1
  have hearlier : ∀ earlier < last, BracesClose lines signature earlier →
      ¬BodyForm.block.EndsAt lines earlier := by
    intro earlier hlt hclose
    exact BodyForm.not_endsAt_of_isLeast hleast hclose.behind hlt hclose.level
  refine ⟨signature, last, hstop, hs, hlast.behind, hlast.ends, hlast.level, hearlier, ?_⟩
  intro hlength
  have hlevel : BodyForm.block.depth lines signature last = 0 :=
    excess_eq_zero_of_dvd hlast.level hlength
  have hopened : '{' ∈ charsThrough lines signature last :=
    BodyForm.opener_mem_of_depth_eq_zero hlast.behind hlevel hlast.ends
  obtain ⟨first, hfirst, hle⟩ := exists_isLeast_le
    (p := fun i => BracesClose lines signature i) ⟨hlast.behind, hopened, hlevel⟩
  refine ⟨first, hfirst, hle, ?_, ?_⟩
  · intro he
    rw [he]
    exact hlast.ends
  · intro hends
    by_contra hne
    exact hearlier first (by omega) hfirst.1 hends

/-- The only pass over a getter whose body opens and closes on the line of its signature, above a
method. -/
def compactPass : Pass where
  lines :=
    ["class A \x7b".toList, "/// Structured display sections for generic rendering.".toList,
      "List<ResultSection> get sections \x7b return []; \x7d".toList,
      "int twice(int x) \x7b".toList, "return 2 * x;".toList, "\x7d".toList, "\x7d".toList]
  plan := .single ⟨1, 6⟩

private theorem extentAt_compact :
    Marker.sections.extentAt compactPass.lines 1 = .body 6 .block := by rfl

theorem block_ends_on_lone_brace_compact :
    Marker.sections.extentAt compactPass.lines 1 = .body 6 .block ∧
      ∃ signature last, 6 = last + 1 ∧
        Marker.sections.SignatureAt compactPass.lines 1 signature ∧ signature ≤ last ∧
        BodyForm.block.EndsAt compactPass.lines last ∧
        (2 ^ 32 : Int) ∣ braceDepth compactPass.lines signature last ∧
        (∀ earlier < last, BracesClose compactPass.lines signature earlier →
          ¬BodyForm.block.EndsAt compactPass.lines earlier) ∧
        ((charsThrough compactPass.lines signature last).length < 2 ^ 32 →
          ∃ first, IsLeast {i | BracesClose compactPass.lines signature i} first ∧
            first ≤ last ∧ (first = last ↔ BodyForm.block.EndsAt compactPass.lines first)) :=
  ⟨extentAt_compact, block_ends_on_lone_brace extentAt_compact⟩

/-- The braces close on the line of the signature, but the getter takes the method with it. -/
theorem compact_getter_takes_method :
    Marker.sections.extentAt compactPass.lines 1 = .body 6 .block ∧
      Marker.sections.SignatureAt compactPass.lines 1 2 ∧
      BracesClose compactPass.lines 2 2 ∧ ¬IsLeast {i | BracesClose compactPass.lines 2 i} 5 ∧
      prune importless (joinLines compactPass.lines) =
        .ok ⟨joinLines ["class A \x7b".toList, "\x7d".toList], 1⟩ := by
  have hsignature : Marker.sections.SignatureAt compactPass.lines 1 2 :=
    ⟨by decide, ⟨_, rfl, by rfl, by rfl⟩, fun i hi hlt => by omega⟩
  have hclose : BracesClose compactPass.lines 2 2 :=
    ⟨Nat.le_refl _, by decide +kernel, by decide +kernel⟩
  refine ⟨extentAt_compact, hsignature, hclose, ?_, ?_⟩
  · intro hleast
    exact absurd (hleast.2 hclose) (by decide)
  · exact prune_of_pass (by rfl) (by rfl) (by rfl) (by simp [compactPass]) (by rfl) (by rfl)
      (by decide +kernel)

/-! ### Expression bodies -/

/-- The line `last` ends a statement that begins on the line `first`: a semicolon stands at its end,
and no brace or bracket is left open. -/
structure EndsStatement (lines : List Text) (first last : Nat) : Prop where
  behind : first ≤ last
  semicolon : lines[last]?.any (fun line => ";".toList.isSuffixOf (trim line)) = true
  braces : braceDepth lines first last = 0
  brackets : bracketDepth lines first last = 0

/-- A getter with an expression body ends on a line that closes a list and ends a statement at once,
with the brackets level. A line in front of it that ends the statement does not close a list. -/
theorem expression_ends_with_list {lines : List Text} {index stop : Nat}
    (h : Marker.sections.extentAt lines index = .body stop .expression) :
    ∃ signature last, stop = last + 1 ∧ Marker.sections.SignatureAt lines index signature ∧
      signature ≤ last ∧ BodyForm.expression.EndsAt lines last ∧
      (2 ^ 32 : Int) ∣ bracketDepth lines signature last ∧
      ∀ earlier < last, EndsStatement lines signature earlier →
        ¬BodyForm.expression.EndsAt lines earlier := by
  obtain ⟨signature, line, last, hs, -, -, hstop, hleast⟩ := Marker.exists_isLeast_closesAt h
  have hlast : BodyForm.expression.ClosesAt lines signature last := hleast.1
  refine ⟨signature, last, hstop, hs, hlast.behind, hlast.ends, hlast.level, ?_⟩
  intro earlier hlt hstatement
  exact BodyForm.not_endsAt_of_isLeast hleast hstatement.behind hlt hstatement.brackets

/-- The only pass over a getter whose value calls a method of a list, above another getter. -/
def callingPass : Pass where
  lines :=
    ["class A \x7b".toList, "/// Structured display sections for generic rendering.".toList,
      "List<ResultSection> get sections => [a, b].toList();".toList,
      "int get first => rows[0];".toList, "\x7d".toList]
  plan := .single ⟨1, 4⟩

private theorem extentAt_calling :
    Marker.sections.extentAt callingPass.lines 1 = .body 4 .expression := by rfl

theorem expression_ends_with_list_calling :
    Marker.sections.extentAt callingPass.lines 1 = .body 4 .expression ∧
      ∃ signature last, 4 = last + 1 ∧
        Marker.sections.SignatureAt callingPass.lines 1 signature ∧ signature ≤ last ∧
        BodyForm.expression.EndsAt callingPass.lines last ∧
        (2 ^ 32 : Int) ∣ bracketDepth callingPass.lines signature last ∧
        ∀ earlier < last, EndsStatement callingPass.lines signature earlier →
          ¬BodyForm.expression.EndsAt callingPass.lines earlier :=
  ⟨extentAt_calling, expression_ends_with_list extentAt_calling⟩

/-- The statement ends on the line of the signature, but the getter takes the next one with it. -/
theorem calling_getter_takes_next :
    Marker.sections.extentAt callingPass.lines 1 = .body 4 .expression ∧
      Marker.sections.SignatureAt callingPass.lines 1 2 ∧
      EndsStatement callingPass.lines 2 2 ∧
      prune importless (joinLines callingPass.lines) =
        .ok ⟨joinLines ["class A \x7b".toList, "\x7d".toList], 1⟩ := by
  have hsignature : Marker.sections.SignatureAt callingPass.lines 1 2 :=
    ⟨by decide, ⟨_, rfl, by rfl, by rfl⟩, fun i hi hlt => by omega⟩
  have hstatement : EndsStatement callingPass.lines 2 2 :=
    ⟨Nat.le_refl _, by decide +kernel, by decide +kernel, by decide +kernel⟩
  refine ⟨extentAt_calling, hsignature, hstatement, ?_⟩
  exact prune_of_pass (by rfl) (by rfl) (by rfl) (by simp [callingPass]) (by rfl) (by rfl)
    (by decide +kernel)

end DartSweep

import DartSweep.Proofs.Files.Tree

/-!
# Replacing a file

Replacing the bytes of a file changes the entry at its location and no other, and all paths lead
where they led before. So a text that is written to a file is read from it again.
-/
namespace DartSweep

private theorem fromUTF8?_eq_some_iff (bytes : ByteArray) (content : String) :
    String.fromUTF8? bytes = some content ↔ bytes = content.toUTF8 := by
  constructor
  · intro h
    unfold String.fromUTF8? at h
    split at h
    · rw [← Option.some.inj h]
      rfl
    · simp at h
  · intro h
    rw [h]
    exact dif_pos (String.isValidUTF8 _)

theorem toUTF8_inj {content other : Text}
    (h : (String.ofList content).toUTF8 = (String.ofList other).toUTF8) : content = other :=
  String.ofList_inj.mp (String.toByteArray_inj.mp h)

namespace FileSystem
variable {fs : FileSystem}

private theorem bytesAt_eq_ok_iff {location : Location} {bytes : ByteArray} :
    fs.bytesAt location = .ok bytes ↔
      fs.node? location = some (.file bytes) ∧ fs.refusal? location = none := by
  rw [bytesAt]
  cases fs.node? location with
  | none => simp
  | some node =>
    cases fs.refusal? location with
    | some reason => simp
    | none => cases node <;> simp

theorem textAt_eq_ok_iff {location : Location} {content : Text} :
    fs.textAt location = .ok content ↔
      fs.node? location = some (.file (String.ofList content).toUTF8) ∧
        fs.refusal? location = none := by
  rw [← bytesAt_eq_ok_iff]
  cases hb : fs.bytesAt location with
  | error cause => simp [textAt, hb, bind, Except.bind]
  | ok bytes =>
    simp only [textAt, hb, bind, Except.bind, Except.ok.injEq]
    rw [← fromUTF8?_eq_some_iff]
    cases String.fromUTF8? bytes with
    | none => simp
    | some found =>
      rw [Except.ok.injEq, Option.some.injEq]
      constructor
      · intro h
        rw [← h, String.ofList_toList]
      · intro h
        rw [h, String.toList_ofList]

theorem readText_eq_ok_iff {path : Path} {content : Text} :
    fs.readText path = .ok content ↔
      ∃ location, fs.resolve path = .ok location ∧ fs.textAt location = .ok content := by
  cases hr : fs.resolve path with
  | error cause => simp [readText, hr, bind, Except.bind]
  | ok location => simp [readText, hr, bind, Except.bind]

private theorem lookup_replace (nodes : List (Location × Node)) (location other : Location)
    (node : Node) :
    (nodes.map fun entry => if entry.1 = location then (location, node) else entry).lookup other =
      if other = location then (nodes.lookup location).map fun _ => node
      else nodes.lookup other := by
  induction nodes with
  | nil => simp
  | cons entry rest ih =>
    obtain ⟨place, found⟩ := entry
    rw [List.map_cons, List.lookup_cons, List.lookup_cons, List.lookup_cons, ih]
    by_cases hp : place = location
    · subst hp
      by_cases ho : other = place
      · simp [ho]
      · simp [ho, beq_false_of_ne ho]
    · by_cases ho : other = location
      · subst ho
        simp [hp, beq_false_of_ne (Ne.symm hp)]
      · simp [hp, ho]

theorem readText_of_notUtf8 {path : Path} {bytes : ByteArray} (hb : fs.readBytes path = .ok bytes)
    (hu : String.fromUTF8? bytes = none) : fs.readText path = .error .notUtf8 := by
  cases hr : fs.resolve path with
  | error cause => simp [readBytes, hr, bind, Except.bind] at hb
  | ok location =>
    have hbytes : fs.bytesAt location = .ok bytes := by
      simpa only [readBytes, hr, bind, Except.bind] using hb
    simp only [readText, hr, textAt, hbytes, bind, Except.bind, hu]

section
variable {location : Location} {old : ByteArray}
  (h : fs.node? location = some (.file old)) (bytes : ByteArray)
include h

theorem node?_replace (other : Location) :
    (fs.replace location bytes).node? other =
      if other = location then some (.file bytes) else fs.node? other := by
  have hroot : location ≠ [] := by
    intro he
    simp [node?, he] at h
  have hfound : fs.nodes.lookup location = some (.file old) := by
    rw [node?, if_neg hroot] at h
    exact h
  rw [node?, node?, replace, lookup_replace, hfound]
  by_cases ho : other = location
  · rw [if_pos ho, if_pos ho, if_neg (ho ▸ hroot)]
    rfl
  · rw [if_neg ho, if_neg ho]

theorem sameTree_replace : SameTree fs (fs.replace location bytes) where
  workingDirectory := rfl
  refusals := rfl
  locations := map_fst_replace _ _ _
  isFile other := by
    rw [node?_replace h]
    split
    · rename_i he
      rw [he, h]
      rfl
    · rfl

theorem textAt_replace_of_ne {other : Location} (hne : other ≠ location) :
    (fs.replace location bytes).textAt other = fs.textAt other := by
  have hnode : (fs.replace location bytes).node? other = fs.node? other := by
    rw [node?_replace h, if_neg hne]
  rw [textAt, textAt, bytesAt, bytesAt, hnode, (sameTree_replace h bytes).refusal?_eq]

theorem resolve_replace (path : Path) :
    (fs.replace location bytes).resolve path = fs.resolve path :=
  (sameTree_replace h bytes).resolve_eq path

end

theorem replace_comm {location place : Location} (hne : location ≠ place)
    (bytes others : ByteArray) :
    (fs.replace location bytes).replace place others =
      (fs.replace place others).replace location bytes := by
  simp only [replace, List.map_map, FileSystem.mk.injEq, and_true]
  refine List.map_congr_left fun entry _ => ?_
  by_cases hl : entry.1 = location
  · simp [hl, hne]
  · by_cases hp : entry.1 = place
    · simp [hp, Ne.symm hne]
    · simp [hl, hp]

theorem textAt_replace {location : Location} {source : Text} (h : fs.textAt location = .ok source)
    (content : Text) :
    (fs.replace location (String.ofList content).toUTF8).textAt location = .ok content := by
  obtain ⟨hn, hopen⟩ := textAt_eq_ok_iff.mp h
  rw [textAt_eq_ok_iff, node?_replace hn, if_pos rfl, (sameTree_replace hn _).refusal?_eq]
  exact ⟨rfl, hopen⟩

theorem writeText_eq_ok {path : Path} {location : Location} {old : ByteArray}
    (hr : fs.resolve path = .ok location) (h : fs.node? location = some (.file old))
    (content : Text) :
    fs.writeText path content = .ok (fs.replace location (String.ofList content).toUTF8) := by
  simp only [writeText, hr, h, bind, Except.bind]

end FileSystem

def oneFile (content : Text) : FileSystem where
  nodes := [([['a']], .file (String.ofList content).toUTF8)]
  workingDirectory := []
  proper := (by decide : ∀ location ∈ [[['a']]], ∀ name ∈ location, IsName name)
  nodup := by simp

theorem readText_oneFile (content : Text) : (oneFile content).readText ['a'] = .ok content :=
  FileSystem.readText_eq_ok_iff.mpr
    ⟨[['a']], by rfl, FileSystem.textAt_eq_ok_iff.mpr ⟨by rfl, by rfl⟩⟩

end DartSweep

import Mathlib
import WaveScope.Proofs.SessionRun
import WaveScope.Proofs.Writer

/-!
# A snapshot reports exactly one outcome and changes nothing else

A snapshot asked for while live only says that it needs a frozen display.  Frozen, it selects
the samples of the horizontal range; with none it says so and writes nothing; otherwise it
writes them to `rtt_snapshot_<stamp>.txt` in the snapshot directory, through a buffer on a disk
that may fail at the create, at any write or at the flush, and reports the file's name or the
failure.  In every case the window, the capture, the viewport, the view and the word assembler
stay as they were.

* `Files.fileName?_of_toList` and `Snapshot.fileName?_joinPath`: the last component of a
  directory joined with a plain name is that name, whatever the directory.
* `Snapshot.slash_not_mem_fileName`: a snapshot's file name is a plain name.
* `Snapshot.flatten_linePieces`: the pieces the writer is handed are the bytes of the text the
  file is to hold (`Snapshot.content`).
* `Snapshot.save_cases`: the three outcomes of saving.

**Main statement.**  `snapshot_reports_one_outcome`, with the file's content read through
`Files.writeValues_file` and the failures through `Files.writeValues_ok`.
-/

namespace WaveScope

namespace Files

/-! ## The last component of a path -/

/-- Without a slash, the rest of a path is one component. -/
lemma bodyParts_go_of_no_slash (ns : List Char) (hns : '/' ∉ ns) (pos : Nat) (cur : List Char)
    (curPos : Nat) :
    bodyParts.go ns pos cur curPos = [(curPos, String.ofList (cur.reverse ++ ns))] := by
  induction ns generalizing pos cur with
  | nil => simp [bodyParts.go]
  | cons c ns ih =>
    have hc : c ≠ '/' := fun h => hns (h ▸ List.mem_cons_self ..)
    rw [bodyParts.go.eq_def]
    split
    · contradiction
    · rename_i h
      cases h
      exact absurd rfl hc
    · rename_i c' rest _ heq
      cases heq
      rw [ih (fun h => hns (List.mem_cons_of_mem _ h))]
      simp

/-- After the last slash, the rest of a path is the last component. -/
lemma getLast?_bodyParts_go_slash (ns : List Char) (hns : '/' ∉ ns) (cs : List Char) (pos : Nat)
    (cur : List Char) (curPos : Nat) :
    ∃ i, (bodyParts.go (cs ++ '/' :: ns) pos cur curPos).getLast? = some (i, String.ofList ns) := by
  induction cs generalizing pos cur curPos with
  | nil =>
    refine ⟨pos + 1, ?_⟩
    simp [bodyParts.go, bodyParts_go_of_no_slash ns hns]
  | cons c cs ih =>
    rw [List.cons_append, bodyParts.go.eq_def]
    split
    · contradiction
    · -- a slash closes a component; the last one comes later
      rename_i h
      cases h
      obtain ⟨i, hi⟩ := ih (pos + 1) [] (pos + 1)
      exact ⟨i, by rw [List.getLast?_cons, hi]; rfl⟩
    · rename_i c' rest _ heq
      cases heq
      exact ih _ _ _

/-- A path that is some text ending in a slash (or nothing), then a name without a slash, has
that name for its last component. -/
lemma getLast?_bodyParts_go (cs ns : List Char) (hcs : ∀ c, cs.getLast? = some c → c = '/')
    (hns : '/' ∉ ns) (pos curPos : Nat) :
    ∃ i, (bodyParts.go (cs ++ ns) pos [] curPos).getLast? = some (i, String.ofList ns) := by
  cases h : cs.getLast? with
  | none =>
    rw [List.getLast?_eq_none_iff.1 h, List.nil_append, bodyParts_go_of_no_slash ns hns]
    exact ⟨curPos, by simp⟩
  | some c =>
    obtain ⟨cs', rfl⟩ := List.getLast?_eq_some_iff.1 h
    rw [hcs c h, List.append_assoc, List.singleton_append]
    exact getLast?_bodyParts_go_slash ns hns cs' pos [] curPos

lemma startLength_le_one (p : String) : startLength p ≤ 1 := by
  unfold startLength
  split <;> omega

/-- The start of a path that is a name without a slash takes nothing, unless the name is `.`. -/
lemma startLength_of_name {p : String} (hslash : '/' ∉ p.toList) (hdot : p ≠ ".") :
    startLength p = 0 := by
  unfold startLength
  split
  · rename_i rest h
    exact absurd (h ▸ List.mem_cons_self ..) hslash
  · rename_i h
    exact absurd (String.toList_inj.1 (h.trans rfl)) hdot
  · rename_i rest h
    exact absurd (h ▸ List.mem_cons_of_mem _ (List.mem_cons_self ..)) hslash
  · rfl

/-- **The last component.**  A path whose text is some text ending in a slash (or nothing),
then a name without a slash other than `.` and `..`, has that name for its file name. -/
theorem fileName?_of_toList {p name : String} (cs : List Char) (hp : p.toList = cs ++ name.toList)
    (hcs : ∀ c, cs.getLast? = some c → c = '/') (hslash : '/' ∉ name.toList) (hne : name ≠ "")
    (hdot : name ≠ ".") (hdots : name ≠ "..") : fileName? p = some name := by
  -- the start of the path lies inside the text before the name
  have hstart : startLength p ≤ cs.length := by
    by_cases hcs0 : cs = []
    · subst hcs0
      have hpn : p = name := String.toList_inj.1 (by simpa using hp)
      subst hpn
      rw [startLength_of_name hslash hdot]
      exact Nat.zero_le _
    · have := List.length_pos_iff.2 hcs0
      have := startLength_le_one p
      omega
  have hdrop : p.toList.drop (startLength p) = cs.drop (startLength p) ++ name.toList := by
    rw [hp, List.drop_append_of_le_length hstart]
  have hcs' : ∀ c, (cs.drop (startLength p)).getLast? = some c → c = '/' := by
    intro c hc
    rw [List.getLast?_drop] at hc
    split at hc
    · cases hc
    · exact hcs c hc
  obtain ⟨i, hi⟩ := getLast?_bodyParts_go _ _ hcs' hslash (startLength p) (startLength p)
  rw [String.ofList_toList] at hi
  -- the name survives the filter of empty and `.` components
  have hlast : (bodyParts p).getLast? = some (i, name) := by
    obtain ⟨ys, hys⟩ := List.getLast?_eq_some_iff.1 hi
    have hkeep : (name != "" && name != ".") = true := by simp [hne, hdot]
    simp only [bodyParts, hdrop, hys, List.filter_append, List.filter_cons, hkeep, if_true,
      List.filter_nil, List.getLast?_append, List.getLast?_singleton, Option.some_or]
  simp only [fileName?, components, List.getLast?_append, List.getLast?_map, hlast, Option.map_some,
    Option.some_or, beq_iff_eq, hdots, if_false]

end Files

namespace Snapshot

/-! ## The snapshot's file name -/

lemma slash_not_mem_append {a b : String} (ha : '/' ∉ a.toList) (hb : '/' ∉ b.toList) :
    '/' ∉ (a ++ b).toList := by
  rw [String.toList_append, List.mem_append, not_or]
  exact ⟨ha, hb⟩

lemma slash_not_mem_toString (n : Nat) : '/' ∉ (toString n).toList := by
  intro h
  rw [Nat.toString_eq_repr, Nat.repr] at h
  simp only [String.toList_ofList] at h
  exact absurd (Nat.isDigit_of_mem_toDigits (by omega) (by omega) h) (by decide)

lemma slash_not_mem_padded (w n : Nat) : '/' ∉ (LocalTime.padded w n).toList := by
  refine slash_not_mem_append ?_ (slash_not_mem_toString n)
  rw [String.toList_ofList, List.mem_replicate]
  exact fun h => absurd h.2 (by decide)

lemma slash_not_mem_yearText (y : Int) : '/' ∉ (LocalTime.yearText y).toList := by
  unfold LocalTime.yearText
  split
  · exact slash_not_mem_padded 4 _
  · refine slash_not_mem_append ?_ (slash_not_mem_padded 4 _)
    split <;> decide

/-- A snapshot's file name is a plain name: no slash. -/
theorem slash_not_mem_fileName (t : LocalTime) : '/' ∉ (fileName t).toList := by
  -- the numbers of the stamp have no slash; what is left are the fixed texts around them
  simp only [fileName, LocalTime.stamp, String.toList_append, List.mem_append,
    slash_not_mem_yearText, slash_not_mem_padded, or_false, false_or]
  decide

lemma fileName_toList (t : LocalTime) : ∃ rest, (fileName t).toList = 'r' :: rest :=
  ⟨_, by simp only [fileName, String.toList_append]; rfl⟩

/-- **A snapshot file is named by its own name** in any snapshot directory. -/
theorem fileName?_joinPath (dir : String) (t : LocalTime) :
    Files.fileName? (joinPath dir (fileName t)) = some (fileName t) := by
  obtain ⟨rest, hr⟩ := fileName_toList t
  -- the name starts with `r`, so it is neither empty nor `.` nor `..`
  have hne : fileName t ≠ "" := fun h => by rw [h] at hr; cases hr
  have hdot : fileName t ≠ "." := fun h => by rw [h] at hr; cases hr
  have hdots : fileName t ≠ ".." := fun h => by rw [h] at hr; cases hr
  have hslash := slash_not_mem_fileName t
  unfold joinPath
  split
  · exact Files.fileName?_of_toList [] (by simp) (by simp) hslash hne hdot hdots
  · split
    · -- the directory ends in a slash already
      rename_i _ h
      rw [String.endsWith] at h
      obtain ⟨u, hu⟩ := String.Slice.endsWith_string_iff.1 h
      have hdir : dir.toList = u ++ ['/'] := by simpa using hu.symm
      refine Files.fileName?_of_toList dir.toList (by simp) ?_ hslash hne hdot hdots
      intro c hc
      rw [hdir, List.getLast?_append] at hc
      simpa using hc.symm
    · refine Files.fileName?_of_toList (dir.toList ++ ['/']) (by simp) ?_ hslash hne hdot hdots
      intro c hc
      simpa using hc.symm

/-! ## Saving -/

/-- The text a snapshot file is to hold: each value in decimal on a line of its own. -/
def content (values : Array UInt32) : String :=
  String.join (values.toList.map fun v => toString v.toNat ++ "\n")

/-- The lines the writer hands over, piece by piece, are the bytes of the snapshot's text. -/
theorem flatten_linePieces (values : Array UInt32) :
    (values.toList.flatMap Files.linePieces).flatten = (content values).toUTF8.toList := by
  rw [content]
  induction values.toList with
  | nil => simp [ByteArray.toList, byteArray_toList_loop]
  | cons v rest ih =>
    rw [List.flatMap_cons, List.flatten_append, ih, List.map_cons, String.join_cons,
      toUTF8_toList_append, toUTF8_toList_append]
    simp [Files.linePieces]

/-- **The three outcomes of saving.**  With no sample in range nothing is written; otherwise the
selected values are written to the snapshot's path, and the disk after the save is the disk the
write left, which either succeeded or failed with an error that the failure names with the
path. -/
theorem save_cases {δ : Type} [Files.Disk δ] (d : δ) (w : SampleWindow) (x : AxisRange)
    (dir : String) (at_ : LocalTime) :
    let path := joinPath dir (fileName at_)
    let written := Files.writeValues d path (select w x).toList
    (select w x = #[] ∧ save d w x dir at_ = (.ok .nothingVisible, d)) ∨
      (select w x ≠ #[] ∧ written.2 = .ok () ∧
        save d w x dir at_ = (.ok (.written path (select w x).size), written.1)) ∨
      (select w x ≠ #[] ∧ ∃ e, written.2 = .error e ∧
        save d w x dir at_ = (.error ⟨path, e⟩, written.1)) := by
  intro path written
  by_cases hsel : select w x = #[]
  · exact .inl ⟨hsel, by simp [save, hsel]⟩
  · have hne : (select w x).isEmpty = false := by simpa using hsel
    simp only [save, hne, written, path]
    rcases Files.writeValues d (joinPath dir (fileName at_)) (select w x).toList with ⟨d', r⟩
    cases r with
    | ok u => exact .inr (.inl ⟨hsel, rfl, rfl⟩)
    | error e => exact .inr (.inr ⟨hsel, e, rfl, rfl⟩)

end Snapshot

namespace Session

variable {σ δ : Type} [Files.Disk δ]

/-- **A snapshot reports exactly one outcome and changes nothing else.**  Whatever the session
and whatever the disk does, a snapshot changes only the disk and the notice, which it posts at
`now`, and exactly one of these holds: live, it asks for a frozen display and leaves the disk;
frozen with no sample in range, it says nothing is visible and leaves the disk; frozen with
samples in range, it reports the file `rtt_snapshot_<stamp>.txt` in the snapshot directory
saved, and the file holds the selected values, one decimal number per line, on any disk that
keeps a file there; or it reports the failure's message, which happens only on a disk that does
not take everything, and either the create failed and the disk is as the create left it, or
the file was created and holds a prefix of those lines. -/
theorem snapshot_reports_one_outcome (s : Session σ δ) (now : Nat) (at_ : LocalTime) :
    let path := Snapshot.joinPath s.snapshotDir (Snapshot.fileName at_)
    let sel := Snapshot.select s.window s.viewport.x
    let bytes := (Snapshot.content sel).toUTF8.toList
    let s' := s.snapshot now at_
    s' = { s with disk := s'.disk, notice := s'.notice } ∧
      ((s.capture.isFrozen = false ∧ s'.disk = s.disk ∧
          s'.notice = some ⟨snapshotNeedsFreeze, now⟩) ∨
        (s.capture.isFrozen = true ∧ sel = #[] ∧ s'.disk = s.disk ∧
          s'.notice = some ⟨nothingVisible, now⟩) ∨
        (s.capture.isFrozen = true ∧ sel ≠ #[] ∧
          s'.notice = some ⟨"Snapshot saved to " ++ Snapshot.fileName at_, now⟩ ∧
          ∀ read, Files.KeepsFile path read → read s'.disk = bytes) ∨
        (s.capture.isFrozen = true ∧ sel ≠ #[] ∧ ¬Files.TakesAll δ path ∧
          ∃ e, s'.notice =
              some ⟨"Failed to save snapshot: " ++ (Snapshot.Failure.mk path e).message, now⟩ ∧
            ((Files.Disk.create s.disk path).2 = .error e ∧
                s'.disk = (Files.Disk.create s.disk path).1 ∨
              (Files.Disk.create s.disk path).2 = .ok () ∧
                ∀ read, Files.KeepsFile path read → read s'.disk <+: bytes))) := by
  intro path sel bytes s'
  obtain ⟨disk, notice, hs⟩ := snapshot_eq s now at_
  refine ⟨by simp only [s', hs], ?_⟩
  cases hf : s.capture.isFrozen with
  | false =>
    -- live: only the notice asking for a frozen display
    refine .inl ⟨rfl, ?_, ?_⟩ <;> simp [s', snapshot, hf, notify]
  | true =>
    have hbytes : bytes = (sel.toList.flatMap Files.linePieces).flatten :=
      (Snapshot.flatten_linePieces sel).symm
    -- frozen, the disk after is the disk the save left
    have hdisk : s'.disk = (Snapshot.save s.disk s.window s.viewport.x s.snapshotDir at_).2 := by
      simp only [s', snapshot, hf, Bool.not_true, Bool.false_eq_true, if_false]
      split <;> rfl
    rcases Snapshot.save_cases s.disk s.window s.viewport.x s.snapshotDir at_ with
      ⟨hsel, hsave⟩ | ⟨hsel, hw, hsave⟩ | ⟨hsel, e, hw, hsave⟩
    · refine .inr (.inl ⟨rfl, hsel, ?_, ?_⟩) <;> simp [s', snapshot, hf, hsave, notify]
    · rw [hsave] at hdisk
      refine .inr (.inr (.inl ⟨rfl, hsel, ?_, fun read hk => ?_⟩))
      · -- the notice names the file by the last component of its path
        simp [s', snapshot, hf, hsave, notify, Snapshot.fileName?_joinPath]
      · rw [hdisk, hbytes]
        exact Files.writeValues_ok_file hw read hk
    · rw [hsave] at hdisk
      have hnotice : s'.notice =
          some ⟨"Failed to save snapshot: " ++ (Snapshot.Failure.mk path e).message, now⟩ := by
        simp [s', snapshot, hf, hsave, notify, path]
      obtain ⟨hfails, hcreate | ⟨hc, hfile⟩⟩ := Files.writeValues_error_file hw
      · exact .inr (.inr (.inr ⟨rfl, hsel, hfails, e, hnotice, .inl (hdisk ▸ hcreate)⟩))
      · refine .inr (.inr (.inr ⟨rfl, hsel, hfails, e, hnotice, .inr ⟨hc, fun read hk => ?_⟩⟩))
        rw [hdisk, hbytes]
        exact hfile read hk

end Session

end WaveScope

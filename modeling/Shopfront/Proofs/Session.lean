import Shopfront.Program
import Shopfront.Proofs.Text.Blank
import Shopfront.Proofs.Text.Utf8

/-! The token in a file. Reading gives a token without blanks around it, or nothing, exactly if the
bytes of the file are UTF-8, and the session then has that token; with any other bytes reading fails,
and so does the program (`token_file_read_iff`). -/

namespace Shopfront.Session

open Text (Stripped Trimmed trim trimChars encodeUtf8 decodeUtf8? unifyNewlines)

variable {path : String} {env : Option String} {bytes : List UInt8} {cs : List Char}

/-! ## The token of a text -/

theorem stripped_nonBlank? (cs : List Char) : Stripped cs (nonBlank? (String.ofList cs)) := by
  have hchars : (trim (String.ofList cs)).toList = trimChars cs := by
    rw [Text.toList_trim, String.toList_ofList]
  obtain ⟨left, right, hleft, hright, hsplit⟩ := Text.exists_eq_trimChars cs
  unfold nonBlank?
  split
  · next hempty =>
    have hnone : trimChars cs = [] := by rw [← hchars, hempty, String.toList_empty]
    rw [hnone, List.append_nil] at hsplit
    refine .nothing fun c hc => ?_
    rw [hsplit] at hc
    exact (List.mem_append.mp hc).elim (hleft c) (hright c)
  · next hsome =>
    rw [← hchars] at hsplit
    exact .text hleft hright hsplit hsome (hchars ▸ Text.trimmed_trimChars cs)

theorem nonBlank?_of_trimmed {t : String} (hne : t ≠ "") (h : Trimmed t.toList) :
    nonBlank? t = some t := by
  have htrim : trim t = t := by rw [trim, Text.trimChars_of_trimmed h, String.ofList_toList]
  rw [nonBlank?, htrim, if_neg hne]

/-- A token without blanks around it is the session's as it stands. -/
theorem token_ofToken {token : Option String} (h : Stripped cs token) :
    (ofToken token).token = token := by
  cases h with
  | nothing => rfl
  | text _ _ _ hne htrim => rw [ofToken, Option.bind_some, nonBlank?_of_trimmed hne htrim]

theorem isAuthenticated_iff (s : Session) : s.isAuthenticated = true ↔ s.token ≠ none :=
  Option.isSome_iff_ne_none

/-! ## Reading -/

theorem readTokenFile_encodeUtf8 (path : String) (cs : List Char) :
    (readTokenFile path (.content (encodeUtf8 cs))).2 =
      .ok (nonBlank? (String.ofList (unifyNewlines cs))) := by
  simp only [readTokenFile, Text.decodeUtf8?_encodeUtf8]

theorem readTokenFile_invalid (path : String) (h : ¬ ∃ cs, bytes = encodeUtf8 cs) :
    (readTokenFile path (.content bytes)).2 = .error .invalidUtf8 := by
  have hnone : decodeUtf8? bytes = none := by
    rw [Option.eq_none_iff_forall_ne_some]
    exact fun cs hcs => h ⟨cs, Text.decodeUtf8?_eq_some_iff.mp hcs⟩
  simp only [readTokenFile, hnone]

/-- Without a token in the environment the session is that of the file. -/
theorem ofEnvironment_of_path (henv : env.bind nonBlank? = none) (hpath : path ≠ "")
    (file : TokenFile) :
    (ofEnvironment env path file).2 = (readTokenFile path file).2.map ofToken := by
  simp only [ofEnvironment, henv, if_neg hpath]

/-! ## The program -/

open Program

/-- A program that cannot tell its session ends as one that has failed. -/
theorem exit_of_ofEnvironment_error {s : Setting} {fault : Fault} {jitter : Jitter} {pauses : Nat}
    {report : Report} (h : (ofEnvironment s.token s.tokenPath s.tokenFile).2 = .error fault)
    (hrun : run s jitter pauses = .ok report) : report.exit = some 2 := by
  obtain ⟨entries, hopen⟩ : ∃ entries, openAgenda s = ⟨entries, .error (.fault fault)⟩ := by
    refine ⟨(ofEnvironment s.token s.tokenPath s.tokenFile).1, ?_⟩
    unfold openAgenda
    split
    · next heq =>
      rw [heq] at h ⊢
      rw [Except.error.inj h]
    · next heq =>
      rw [heq] at h
      cases h
  unfold run at hrun
  cases hpoll : (Integer.read s.pollSeconds).mapError Fault.numeral with
  | error f =>
    rw [hpoll] at hrun
    cases hrun
  | ok poll =>
    rw [hpoll] at hrun
    rw [← Except.ok.inj hrun]
    split
    · rw [runWatch, hopen]
      rfl
    · rw [runOnce, hopen]
      rfl

/-- A token file can be read exactly if its bytes are UTF-8. Then what is read is the text without
the blanks around it, or nothing if it is blank, and the session of an environment without a token
has just that: it is authenticated exactly if a token was read. With any other bytes neither the
token nor the session can be had, and a run of the program with that file ends as failed. -/
theorem token_file_read_iff (henv : env.bind nonBlank? = none) (hpath : path ≠ "")
    (bytes : List UInt8) :
    let answer := (readTokenFile path (.content bytes)).2
    let session := (ofEnvironment env path (.content bytes)).2
    ((∃ token, answer = .ok token) ↔ ∃ cs, bytes = encodeUtf8 cs) ∧
    (∀ cs, bytes = encodeUtf8 cs → ∃ token s, answer = .ok token ∧
      Stripped (unifyNewlines cs) token ∧ session = .ok s ∧ s.token = token ∧
      (s.isAuthenticated = true ↔ token ≠ none)) ∧
    ((¬ ∃ cs, bytes = encodeUtf8 cs) → answer = .error .invalidUtf8 ∧
      session = .error .invalidUtf8 ∧
      ∀ (setting : Setting) (jitter : Jitter) (pauses : Nat) (report : Report),
        setting.token = env → setting.tokenPath = path → setting.tokenFile = .content bytes →
        run setting jitter pauses = .ok report → report.exit = some 2) := by
  have hvalid : ∀ cs, bytes = encodeUtf8 cs →
      (readTokenFile path (.content bytes)).2 =
        .ok (nonBlank? (String.ofList (unifyNewlines cs))) := by
    rintro cs rfl
    exact readTokenFile_encodeUtf8 path cs
  have hsession := ofEnvironment_of_path henv hpath (.content bytes)
  refine ⟨⟨fun ⟨token, htoken⟩ => ?_, fun ⟨cs, hcs⟩ => ⟨_, hvalid cs hcs⟩⟩, fun cs hcs => ?_,
    fun hinvalid => ?_⟩
  · by_contra hinvalid
    rw [readTokenFile_invalid path hinvalid] at htoken
    cases htoken
  · have hstripped := stripped_nonBlank? (unifyNewlines cs)
    have htoken := token_ofToken hstripped
    refine ⟨_, _, hvalid cs hcs, hstripped, ?_, htoken, ?_⟩
    · rw [hsession, hvalid cs hcs]
      rfl
    · rw [isAuthenticated_iff, htoken]
  · have hanswer := readTokenFile_invalid path hinvalid
    replace hsession : (ofEnvironment env path (.content bytes)).2 = .error .invalidUtf8 := by
      rw [hsession, hanswer]
      rfl
    refine ⟨hanswer, hsession, ?_⟩
    rintro setting jitter pauses report rfl rfl hfile hrun
    rw [← hfile] at hsession
    exact exit_of_ofEnvironment_error hsession hrun

/-- A token with blanks around it, read from a file. -/
theorem padded_token_read :
    (none : Option String).bind nonBlank? = none ∧ "token" ≠ "" ∧
    ∃ token s, (readTokenFile "token" (.content [0x20, 0xC3, 0xA9, 0x0D, 0x0A])).2 = .ok token ∧
      Stripped [' ', 'é', '\n'] token ∧
      (ofEnvironment none "token" (.content [0x20, 0xC3, 0xA9, 0x0D, 0x0A])).2 = .ok s ∧
      s.token = token ∧ (s.isAuthenticated = true ↔ token ≠ none) :=
  ⟨rfl, by decide,
    (token_file_read_iff rfl (by decide) [0x20, 0xC3, 0xA9, 0x0D, 0x0A]).2.1 [' ', 'é', '\r', '\n']
      (by decide)⟩

/-- One byte that no text has fails the reading, the session with it, and the program. -/
theorem invalid_byte_fails :
    (readTokenFile "token" (.content [0xFF])).2 = .error .invalidUtf8 ∧
    (ofEnvironment none "token" (.content [0xFF])).2 = .error .invalidUtf8 ∧
    (run ⟨defaultMode, defaultGateway, defaultPollSeconds, none, "token", .content [0xFF], "", none,
      fun _ => .disconnected ""⟩ .low 0).map (·.exit) = .ok (some 2) :=
  ⟨rfl, rfl, rfl⟩

end Shopfront.Session

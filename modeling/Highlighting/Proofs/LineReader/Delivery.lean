import Highlighting.Proofs.LineReader.Lines
import Highlighting.Proofs.Text.Lines
import Highlighting.Proofs.Text.Lossy

/-!
# Reading what an input delivers

An input that is not empty for the moment anywhere — every chunk has bytes — is as good as the bytes
that it delivers and the failure, if any, at its end (`Input.Delivers`).  Where its chunks end and
how often it is interrupted does not matter: the four lemmas `Delivers.next_*` say what a reader
answers in terms of the bytes alone.

So the lines that are read are the lines of the bytes, decoded one by one.  They are also the lines
of the decoded text.  Ill-formed sequences never reach across a line feed or a carriage return,
which stand for themselves wherever they occur, so that it does not matter whether bytes are split
before they are decoded or afterwards (`Input.readAll_of_delivers_none`).

An empty chunk is left out for a reason: it is an end of the input, which ends the line in front of
it, so that it can be told where it stands.
-/

namespace Highlighting

namespace Input

/-! ### What an input delivers -/

/-- The input delivers these bytes in non-empty chunks, with interruptions anywhere between them,
and then ends or fails. -/
inductive Delivers : Input → Bytes → Option IoFailure → Prop
  | ends : Delivers [] [] none
  | fails (failure : IoFailure) : Delivers [.failed failure] [] (some failure)
  | interrupted {rest : Input} {bytes : Bytes} {failure : Option IoFailure} :
      Delivers rest bytes failure → Delivers (.interrupted :: rest) bytes failure
  | data {chunk : Bytes} {rest : Input} {bytes : Bytes} {failure : Option IoFailure} :
      chunk ≠ [] → Delivers rest bytes failure →
        Delivers (.data chunk :: rest) (chunk ++ bytes) failure

variable {input : Input} {bytes : Bytes} {failure : Option IoFailure}

/-- Without a line feed ahead, reading a line gathers everything, and loses it if a failure
follows. -/
theorem Delivers.read_of_notMem (delivers : input.Delivers bytes failure)
    (clean : lineFeed ∉ bytes) (gathered : Bytes) :
    readUntilLineFeed gathered input
      = (failure.elim (.ok (gathered ++ bytes)) .error, []) := by
  induction delivers generalizing gathered with
  | ends => simp [readUntilLineFeed]
  | fails failure => rfl
  | interrupted _ ih => exact ih clean gathered
  | @data chunk rest bytes failure nonempty _ ih =>
    rw [List.mem_append, not_or] at clean
    rw [readUntilLineFeed_of_notMem gathered nonempty clean.1, ih clean.2, List.append_assoc]

/-- Otherwise it stops behind the first line feed, and leaves the rest to be delivered. -/
theorem Delivers.exists_read_eq (delivers : input.Delivers bytes failure)
    {body tail : Bytes} (cut : bytes = body ++ lineFeed :: tail) (clean : lineFeed ∉ body)
    (gathered : Bytes) :
    ∃ rest, readUntilLineFeed gathered input = (.ok (gathered ++ body ++ [lineFeed]), rest) ∧
      rest.Delivers tail failure := by
  induction delivers generalizing gathered body with
  | ends => simp at cut
  | fails failure => simp at cut
  | interrupted _ ih => exact ih cut clean gathered
  | @data chunk rest bytes failure nonempty delivers ih =>
    by_cases hmem : lineFeed ∈ chunk
    · -- The line feed is in this chunk.
      obtain ⟨front, left, rfl, hfront⟩ := List.eq_append_cons_of_mem hmem
      rw [List.append_assoc, List.cons_append] at cut
      obtain ⟨rfl, rfl⟩ := append_separator_inj hfront clean cut
      refine ⟨_, readUntilLineFeed_of_mem gathered hfront left rest, ?_⟩
      split
      · rename_i hleft
        rw [hleft]
        exact delivers
      · rename_i hleft
        exact .data hleft delivers
    · -- The line goes on in later chunks.
      obtain ⟨later, rfl, hlater⟩ := exists_of_append_eq_append_separator hmem cut
      have hclean : lineFeed ∉ later := fun hmem => clean (List.mem_append_right chunk hmem)
      obtain ⟨remaining, hread, hdelivers⟩ := ih hlater hclean (gathered ++ chunk)
      refine ⟨remaining, ?_, hdelivers⟩
      rw [readUntilLineFeed_of_notMem gathered nonempty hmem, hread]
      simp

end Input

/-! ### Terminators -/

/-- Without a line feed there is no terminator. -/
theorem stripTerminator_of_notMem {bytes : Bytes} (clean : Input.lineFeed ∉ bytes) :
    stripTerminator bytes = bytes := by
  have hreverse : Input.lineFeed ∉ bytes.reverse := fun hmem => clean (List.mem_reverse.1 hmem)
  unfold stripTerminator
  split
  · rename_i heq
    exact absurd (heq ▸ List.mem_cons_self ..) hreverse
  · rename_i heq
    exact absurd (heq ▸ List.mem_cons_self ..) hreverse
  · rfl

/-- A line feed at the end goes, and a carriage return in front of it. -/
theorem stripTerminator_return (body : Bytes) :
    stripTerminator (body ++ [Input.carriageReturn] ++ [Input.lineFeed]) = body := by
  simp [stripTerminator, Input.carriageReturn, Input.lineFeed]

/-- Nothing else goes. -/
theorem stripTerminator_of_ne {body : Bytes} (other : body.getLast? ≠ some Input.carriageReturn) :
    stripTerminator (body ++ [Input.lineFeed]) = body := by
  have hreverse : (body ++ [Input.lineFeed]).reverse = 0x0A :: body.reverse := by
    simp [Input.lineFeed]
  unfold stripTerminator
  rw [hreverse]
  split
  · rename_i line heq
    -- The pattern with both bytes would put a carriage return at the end.
    have hhead : body.reverse.head? = some Input.carriageReturn := by
      rw [(List.cons.inj heq).2]
      rfl
    rw [List.head?_reverse] at hhead
    exact absurd hhead other
  · rename_i line _ heq
    rw [← (List.cons.inj heq).2, List.reverse_reverse]
  · rename_i hother
    exact absurd rfl (hother body.reverse)

/-! ### Lines -/

/-- Decoding and taking a carriage return away can be done in either order. -/
theorem decodeLossy_stripTerminator_concat (body : Bytes) :
    Utf8.decodeLossy (stripTerminator (body ++ [Input.lineFeed]))
      = (Utf8.decodeLossy body).withoutReturn := by
  have hascii : Input.carriageReturn < 0x80 := by decide
  by_cases hreturn : body.getLast? = some Input.carriageReturn
  · -- A carriage return is decoded apart from what stands in front of it, so it is there to be
    -- taken away.
    obtain ⟨front, rfl⟩ := List.getLast?_eq_some_iff.1 hreturn
    rw [stripTerminator_return, Utf8.decodeLossy_concat_ascii hascii front]
    exact (Text.withoutReturn_of_return _).symm
  · rw [stripTerminator_of_ne hreturn, Text.withoutReturn_of_ne]
    intro hlast
    exact hreturn ((Utf8.getLast?_decodeLossy_iff hascii).1 hlast)

/-- The first line of a decoded text is that of the bytes. -/
theorem decodeLossy_append_lineFeed (body tail : Bytes) :
    Utf8.decodeLossy (body ++ Input.lineFeed :: tail)
      = Utf8.decodeLossy body ++ '\n' :: Utf8.decodeLossy tail :=
  Utf8.decodeLossy_append_ascii (by decide) body tail

/-- No ill-formed bytes decode to a line feed. -/
theorem lineFeed_notMem_decodeLossy {bytes : Bytes} (clean : Input.lineFeed ∉ bytes) :
    '\n' ∉ Utf8.decodeLossy bytes :=
  fun hmem => clean ((Utf8.mem_decodeLossy_iff (b := Input.lineFeed) (by decide)).1 hmem)

namespace Input

variable {input : Input} {bytes : Bytes} {failure : Option IoFailure}

/-! ### One question -/

/-- While a line feed is ahead, a reader answers with the line in front of it. -/
theorem Delivers.next_line {body tail : Bytes}
    (delivers : input.Delivers (body ++ lineFeed :: tail) failure) (clean : lineFeed ∉ body)
    (number : Nat) :
    ∃ rest : Input, rest.Delivers tail failure ∧
      LineReader.next ⟨input, number, false⟩
        = (some (.ok (Utf8.decodeLossy body).withoutReturn), ⟨rest, number + 1, false⟩) := by
  obtain ⟨rest, hread, hrest⟩ := delivers.exists_read_eq rfl clean []
  refine ⟨rest, hrest, ?_⟩
  rw [List.nil_append] at hread
  rw [LineReader.next_of_readUntilLineFeed (by simp) hread, decodeLossy_stripTerminator_concat]

/-- Bytes behind the last line feed are a line as well. -/
theorem Delivers.next_openLine (delivers : input.Delivers bytes none) (nonempty : bytes ≠ [])
    (clean : lineFeed ∉ bytes) (number : Nat) :
    LineReader.next ⟨input, number, false⟩
      = (some (.ok (Utf8.decodeLossy bytes)), ⟨[], number + 1, false⟩) := by
  have hread := delivers.read_of_notMem clean []
  rw [Option.elim_none, List.nil_append] at hread
  rw [LineReader.next_of_readUntilLineFeed nonempty hread, stripTerminator_of_notMem clean]

/-- Without any bytes, the input has ended. -/
theorem Delivers.next_end (delivers : input.Delivers [] none) (number : Nat) :
    LineReader.next ⟨input, number, false⟩ = (none, ⟨[], number, true⟩) := by
  have hread := delivers.read_of_notMem List.not_mem_nil []
  rw [LineReader.next, hread]
  rfl

/-- A failure that comes before a line feed is the answer, and the bytes before it are lost. -/
theorem Delivers.next_failure {failure : IoFailure} (delivers : input.Delivers bytes (some failure))
    (clean : lineFeed ∉ bytes) (number : Nat) :
    LineReader.next ⟨input, number, false⟩ = (some (.error failure), ⟨[], number, true⟩) := by
  have hread := delivers.read_of_notMem clean []
  rw [LineReader.next, hread]
  rfl

end Input

/-! ### All questions -/

/-- The lines that are read of a text in front of an end of input, or in front of a failure, which
takes the open line with it. -/
def Text.linesBefore (t : Text) : Option IoFailure → List Text
  | none => t.lines
  | some _ => t.finishedLines

theorem Text.linesBefore_append_cons {line : Text} (clean : '\n' ∉ line) (rest : Text)
    (failure : Option IoFailure) :
    (line ++ '\n' :: rest).linesBefore failure
      = line.withoutReturn :: rest.linesBefore failure := by
  cases failure with
  | none => exact Text.lines_append_cons clean rest
  | some failure => exact Text.finishedLines_append_cons clean rest

namespace Input

variable {input : Input} {bytes : Bytes} {failure : Option IoFailure}

/-- A reader yields the lines of the decoded text, as far as a failure leaves them. -/
theorem Delivers.readAll_eq (delivers : input.Delivers bytes failure) (number : Nat) :
    LineReader.readAll ⟨input, number, false⟩
      = (((Utf8.decodeLossy bytes).linesBefore failure).toArray, failure) := by
  induction bytes using separatorInduction lineFeed generalizing input number with
  | piece bytes clean =>
    have hclean := lineFeed_notMem_decodeLossy clean
    cases failure with
    | some failure =>
      rw [LineReader.readAll_of_failure (delivers.next_failure clean number), Text.linesBefore,
        Text.finishedLines_of_notMem hclean]
    | none =>
      rw [Text.linesBefore, Text.lines_of_notMem hclean]
      by_cases hempty : bytes = []
      · subst hempty
        rw [LineReader.readAll_of_end (delivers.next_end number)]
        rfl
      · -- The open line is read, and then there is nothing left.
        have hnext := delivers.next_openLine hempty clean number
        have hend := Delivers.ends.next_end (number + 1)
        rw [LineReader.readAll_of_line hnext, LineReader.readAll_of_end hend,
          if_neg (mt Utf8.decodeLossy_eq_nil_iff.1 hempty)]
        rfl
  | append body tail clean ih =>
    obtain ⟨rest, hrest, hnext⟩ := delivers.next_line clean number
    rw [LineReader.readAll_of_line hnext, ih hrest, decodeLossy_append_lineFeed,
      Text.linesBefore_append_cons (lineFeed_notMem_decodeLossy clean)]
    simp

/-- There is a line for each line feed, and one more for bytes behind the last one. -/
theorem length_lines_decodeLossy (bytes : Bytes) :
    (Utf8.decodeLossy bytes).lines.length
      = bytes.count lineFeed
        + if bytes ≠ [] ∧ bytes.getLast? ≠ some lineFeed then 1 else 0 := by
  induction bytes using separatorInduction lineFeed with
  | piece bytes clean =>
    have hlast : bytes.getLast? ≠ some lineFeed := fun h => clean (List.mem_of_getLast? h)
    rw [Text.lines_of_notMem (lineFeed_notMem_decodeLossy clean),
      List.count_eq_zero_of_not_mem clean]
    by_cases hempty : bytes = []
    · simp [hempty, Utf8.decodeLossy_eq_nil_iff]
    · simp [hempty, hlast, Utf8.decodeLossy_eq_nil_iff]
  | append body tail clean ih =>
    -- Whether bytes are left behind the last line feed can be told from the tail alone.
    have hopen : (body ++ lineFeed :: tail ≠ [] ∧
        (body ++ lineFeed :: tail).getLast? ≠ some lineFeed) ↔
          (tail ≠ [] ∧ tail.getLast? ≠ some lineFeed) := by
      rw [and_iff_right (by simp), ← not_or, ← getLast?_append_separator_iff]
    rw [decodeLossy_append_lineFeed, Text.lines_append_cons (lineFeed_notMem_decodeLossy clean),
      List.length_cons, ih, List.count_append, List.count_eq_zero_of_not_mem clean,
      List.count_cons_self]
    simp only [hopen]
    omega

/-- **Ill-formed bytes move no line.**  The lines that are read are those of the whole text, with
one replacement character for each maximal ill-formed subpart: reading decodes line by line, but it
does not matter whether the bytes are cut into lines before they are decoded or afterwards.  So no
line contains a line feed, and there is a line for each line feed byte and one more for bytes behind
the last one. -/
theorem readAll_of_delivers_none (delivers : input.Delivers bytes none) :
    let read := (LineReader.ofInput input).readAll
    (∀ text, Utf8.DecodesTo bytes text ↔ text = Utf8.decodeLossy bytes) ∧
    read = ((Utf8.decodeLossy bytes).lines.toArray, none) ∧
    (∀ line ∈ read.1, '\n' ∉ line) ∧
    read.1.size = bytes.count lineFeed
      + if bytes ≠ [] ∧ bytes.getLast? ≠ some lineFeed then 1 else 0 := by
  intro read
  have hread : read = ((Utf8.decodeLossy bytes).lines.toArray, none) := delivers.readAll_eq 0
  refine ⟨fun _ => Utf8.decodesTo_iff, hread, ?_, ?_⟩
  · rw [hread]
    intro line hline
    exact Text.lineFeed_notMem_of_mem_lines (List.mem_toArray.1 hline)
  · rw [hread, List.size_toArray, length_lines_decodeLossy]

/-- Three lines that break off inside a character: in front of `\r\n`, of a line feed, and of the
end. -/
def brokenLines : Input :=
  [.data [0x61, 0xE2, 0x82], .data [0x0D], .interrupted, .data [0x0A, 0xF0, 0x9F],
    .data [0x98, 0x0A, 0xED], .data [0xA0, 0xC3]]

/-- The last line has three subparts: the two bytes of a surrogate, and a first byte alone. -/
theorem readAll_of_delivers_none_broken :
    brokenLines.Delivers
        [0x61, 0xE2, 0x82, 0x0D, 0x0A, 0xF0, 0x9F, 0x98, 0x0A, 0xED, 0xA0, 0xC3] none ∧
      (LineReader.ofInput brokenLines).readAll
        = (#[['a', '\uFFFD'], ['\uFFFD'], ['\uFFFD', '\uFFFD', '\uFFFD']], none) := by
  have hdelivers : brokenLines.Delivers
      [0x61, 0xE2, 0x82, 0x0D, 0x0A, 0xF0, 0x9F, 0x98, 0x0A, 0xED, 0xA0, 0xC3] none :=
    .data (by simp) (.data (by simp) (.interrupted (.data (by simp) (.data (by simp)
      (.data (by simp) .ends)))))
  exact ⟨hdelivers, (readAll_of_delivers_none hdelivers).2.1.trans rfl⟩

end Input

end Highlighting

import Highlighting.Proofs.LineReader.Delivery

/-!
# Chunks and interruptions cannot be seen

Two inputs that deliver the same bytes, and then both end or both fail in the same way, cannot be
told apart by reading lines, wherever their chunks end and however often they are interrupted.  Two
readers over such inputs are alike (`LineReader.Alike`), give the same answer, and are alike again
behind it (`Alike.next`); so they give the same answers forever.
-/

namespace Highlighting

namespace LineReader

/-! ### Asking again and again -/

/-- The reader behind a number of answers. -/
def behind (reader : LineReader) : Nat → LineReader
  | 0 => reader
  | k + 1 => behind reader.next.2 k

/-- The answer behind `k` others, and the number of lines read by then. -/
def answer (reader : LineReader) (k : Nat) : Option (Except IoFailure Text) × Nat :=
  ((reader.behind k).next.1, (reader.behind k).next.2.lineNumber)

/-! ### Readers that cannot be told apart -/

/-- Two readers with the same number of lines behind them and the same bytes in front of them, or
both done. -/
inductive Alike : LineReader → LineReader → Prop
  | reading {a b : Input} {bytes : Bytes} {failure : Option IoFailure} (number : Nat) :
      a.Delivers bytes failure → b.Delivers bytes failure →
        Alike ⟨a, number, false⟩ ⟨b, number, false⟩
  | done (a b : Input) (number : Nat) : Alike ⟨a, number, true⟩ ⟨b, number, true⟩

/-- Readers that are alike have read equally many lines. -/
theorem Alike.lineNumber_eq {r s : LineReader} (alike : Alike r s) :
    r.lineNumber = s.lineNumber := by
  cases alike with
  | reading number _ _ => rfl
  | done _ _ number => rfl

/-- Readers that are alike give the same answer, and are alike behind it. -/
theorem Alike.next {r s : LineReader} (alike : Alike r s) :
    r.next.1 = s.next.1 ∧ Alike r.next.2 s.next.2 := by
  cases alike with
  | done a b number => exact ⟨rfl, .done a b number⟩
  | @reading a b bytes failure number left right =>
    -- What both readers answer is settled by the bytes: the first line feed, or else the failure,
    -- the end, or the open line in front of the end.
    by_cases hmem : Input.lineFeed ∈ bytes
    · obtain ⟨body, tail, rfl, hclean⟩ := List.eq_append_cons_of_mem hmem
      obtain ⟨restLeft, hrestLeft, hnextLeft⟩ := left.next_line hclean number
      obtain ⟨restRight, hrestRight, hnextRight⟩ := right.next_line hclean number
      rw [hnextLeft, hnextRight]
      exact ⟨rfl, .reading (number + 1) hrestLeft hrestRight⟩
    · cases failure with
      | some failure =>
        rw [left.next_failure hmem number, right.next_failure hmem number]
        exact ⟨rfl, .done [] [] number⟩
      | none =>
        by_cases hempty : bytes = []
        · subst hempty
          rw [left.next_end number, right.next_end number]
          exact ⟨rfl, .done [] [] number⟩
        · rw [left.next_openLine hempty hmem number, right.next_openLine hempty hmem number]
          exact ⟨rfl, .reading (number + 1) .ends .ends⟩

/-- So readers that are alike give the same answers, however often they are asked. -/
theorem Alike.answer_eq {r s : LineReader} (alike : Alike r s) (k : Nat) :
    r.answer k = s.answer k := by
  induction k generalizing r s with
  | zero =>
    obtain ⟨hsame, hbehind⟩ := alike.next
    exact Prod.ext hsame hbehind.lineNumber_eq
  | succ k ih => exact ih alike.next.2

end LineReader

namespace Input

/-- **Chunks and interruptions cannot be seen.**  Readers over two inputs that deliver the same
bytes in front of the same end give the same answers — lines, failure, or end — with the same number
of lines read after each, however often they are asked.  As a whole they read the lines of the
decoded bytes, without the open line if a failure follows it. -/
theorem Delivers.same_answers {a b : Input} {bytes : Bytes} {failure : Option IoFailure}
    (left : a.Delivers bytes failure) (right : b.Delivers bytes failure) :
    (∀ k, (LineReader.ofInput a).answer k = (LineReader.ofInput b).answer k) ∧
      (LineReader.ofInput a).readAll
        = (((Utf8.decodeLossy bytes).linesBefore failure).toArray, failure) :=
  ⟨fun k => LineReader.Alike.answer_eq (.reading 0 left right) k, left.readAll_eq 0⟩

/-- Two lines and the beginning of a third one, cut inside a terminator and inside a character. -/
def choppedLines : Input :=
  [.interrupted, .data [0x61, 0x0D], .interrupted, .data [0x0A, 0xC3], .interrupted, .interrupted,
    .data [0xA9, 0x0A, 0x62], .interrupted, .failed (.device "disk on fire")]

/-- The same in one piece. -/
def wholeLines : Input :=
  [.data [0x61, 0x0D, 0x0A, 0xC3, 0xA9, 0x0A, 0x62], .failed (.device "disk on fire")]

/-- The third line is lost with the failure, and nothing is read behind it. -/
theorem Delivers.same_answers_chopped :
    let bytes : Bytes := [0x61, 0x0D, 0x0A, 0xC3, 0xA9, 0x0A, 0x62]
    let failure := IoFailure.device "disk on fire"
    choppedLines.Delivers bytes (some failure) ∧ wholeLines.Delivers bytes (some failure) ∧
      (List.range 4).map (LineReader.ofInput choppedLines).answer =
        [(some (.ok ['a']), 1), (some (.ok ['é']), 2), (some (.error failure), 2), (none, 2)] := by
  intro bytes failure
  have hchopped : choppedLines.Delivers bytes (some failure) :=
    .interrupted (.data (by simp) (.interrupted (.data (by simp) (.interrupted (.interrupted
      (.data (by simp) (.interrupted (.fails failure))))))))
  have hwhole : wholeLines.Delivers bytes (some failure) := .data (by simp) (.fails failure)
  refine ⟨hchopped, hwhole, ?_⟩
  rw [funext (same_answers hchopped hwhole).1]
  rfl

end Input

end Highlighting

import LiveRoom.LineSource
import LiveRoom.Stream.Input
import LiveRoom.Stream.Output
import LiveRoom.Text.Blank
import LiveRoom.Text.Utf8

/-!
# Asking for a line over byte streams

To ask for a line the program writes its prompt and a colon, and reads up to the
next line feed.  The line is what was read without the carriage returns and line
feeds at its end.  A line whose bytes are not UTF-8 is a failure, but it has been
read: the next question gets the next line.

The prompt comes first.  If it cannot be written in full, nothing is read.
-/

namespace LiveRoom.Terminal

/-- What is written to ask for a line. -/
def promptText (prompt : String) : String := prompt ++ ": "

/-- Whether a character belongs to the ending of a line. -/
def isLineEnd (c : Char) : Bool := c == '\r' || c == '\n'

/-- The complaint about bytes that are not UTF-8. -/
def notUtf8 : String := "stream did not contain valid UTF-8"

def notWritten : String := "failed to write whole buffer"

/-- **What the bytes of a line say.**  No bytes at all mean that input has ended. -/
def readingOf (bytes : List UInt8) : Input :=
  if bytes = [] then .ended
  else match Utf8.decode? bytes with
    | none => .failed notUtf8
    | some text => .line (String.ofList (Text.dropWhileEnd isLineEnd text))

def readLine (stream : Stream.Input) : Input × Stream.Input :=
  let taken := stream.takeLine
  (readingOf taken.1, taken.2)

theorem length_unread_readLine_le (stream : Stream.Input) :
    (readLine stream).2.unread.length ≤ stream.unread.length := by
  have := congrArg List.length stream.append_unread_takeLine
  rw [List.length_append] at this
  simp only [readLine]
  omega

theorem length_unread_readLine_lt {stream : Stream.Input} {text : String}
    (h : (readLine stream).1 = .line text) :
    (readLine stream).2.unread.length < stream.unread.length := by
  have hlen := congrArg List.length stream.append_unread_takeLine
  rw [List.length_append] at hlen
  have hne : stream.takeLine.1 ≠ [] := by
    intro hnil
    simp [readLine, hnil, readingOf] at h
  have := List.length_pos_iff.2 hne
  simp only [readLine]
  omega

/-- **The source that reads lines from a stream.** -/
def lines : LineSource Stream.Input where
  next := readLine
  left stream := stream.unread.length
  left_next_le := length_unread_readLine_le
  left_next_lt := length_unread_readLine_lt

/-- **Asks for a line**: writes the prompt, then reads. -/
def ask (prompt : String) (input : Stream.Input) (output : Stream.Output) :
    Input × Stream.Input × Stream.Output :=
  let prompted := output.write (Utf8.encode prompt.toList)
  if !prompted.1 then (.failed notWritten, input, prompted.2)
  else
    let ready := prompted.2.write (Utf8.encode [':', ' '])
    if !ready.1 then (.failed notWritten, input, ready.2)
    else
      let read := readLine input
      (read.1, read.2, ready.2)

/-- Asks for one line after another. -/
def askAll : (prompts : List String) → Stream.Input → Stream.Output →
    List Input × Stream.Input × Stream.Output
  | [], input, output => ([], input, output)
  | prompt :: prompts, input, output =>
    let first := ask prompt input output
    let others := askAll prompts first.2.1 first.2.2
    (first.1 :: others.1, others.2.1, others.2.2)

end LiveRoom.Terminal

import Naco.Lib.Python

/-!
# Event streams

The format of server-sent events, as a browser reads it: lines that end in a line feed, a carriage
return or both, a field on each line, and a blank line after each message. What has no blank line after
it yet is not delivered.
-/

namespace Py.EventSource

/-- The lines of a text that have ended. After a carriage return a line feed ends nothing more. -/
def lines : Bool → List Char → List Char → List (List Char)
  | _, _, [] => []
  | afterReturn, line, c :: rest =>
      if c = '\n' then
        if afterReturn then lines false [] rest else line :: lines false [] rest
      else if c = '\r' then line :: lines true [] rest
      else lines false (line ++ [c]) rest

structure Message where
  event : String
  data : String
  deriving DecidableEq, Repr

/-- The fields of a message that is not complete. -/
structure Fields where
  event : List Char := []
  data : List (List Char) := []

/-- A line that is not blank. -/
def Fields.add (fields : Fields) (line : List Char) : Fields :=
  let name := line.takeWhile (· ≠ ':')
  let value := (line.drop name.length).drop 1
  let value := if value.head? = some ' ' then value.tail else value
  if name = "event".toList then { fields with event := value }
  else if name = "data".toList then { fields with data := fields.data ++ [value] }
  -- a comment, `retry`, `id`, or a field that is not known
  else fields

/-- The message that a blank line ends, if it has data. -/
def Fields.message (fields : Fields) : Option Message :=
  if fields.data = [] then none
  else some {
    event := if fields.event = [] then "message" else String.ofList fields.event
    data := join "\n" (fields.data.map String.ofList) }

def messages : Fields → List (List Char) → List Message
  | _, [] => []
  | fields, line :: rest =>
      if line = [] then fields.message.toList ++ messages {} rest
      else messages (fields.add line) rest

/-- The messages of a text from its start on. -/
def read (text : List Char) : List Message :=
  messages {} (lines false [] text)

/-! ### What is written is read -/

/-- No line ends inside. -/
def OneLine (text : List Char) : Prop :=
  ∀ c ∈ text, c ≠ '\n' ∧ c ≠ '\r'

instance (text : List Char) : Decidable (OneLine text) :=
  decidable_of_iff ((text.all fun c => c ≠ '\n' && c ≠ '\r') = true) (by simp [OneLine])

theorem lines_append {text : List Char} (h : OneLine text) (line rest : List Char) :
    lines false line (text ++ '\n' :: rest) = (line ++ text) :: lines false [] rest := by
  induction text generalizing line with
  | nil => simp [lines]
  | cons c text ih =>
      obtain ⟨hfeed, hreturn⟩ := h c List.mem_cons_self
      rw [List.cons_append, lines, if_neg hfeed, if_neg hreturn,
        ih (fun d hd => h d (List.mem_cons_of_mem _ hd)), List.append_assoc, List.singleton_append]

/-- The line of a field, with the value that follows its name. -/
def field (name value : List Char) : List Char :=
  name ++ ':' :: ' ' :: value

theorem field_ne_nil (name value : List Char) : field name value ≠ [] := by
  simp [field]

theorem oneLine_field {name value : List Char} (hname : OneLine name) (hvalue : OneLine value) :
    OneLine (field name value) := by
  intro c hc
  rw [field, List.mem_append, List.mem_cons, List.mem_cons] at hc
  rcases hc with hc | rfl | rfl | hc
  · exact hname c hc
  · decide
  · decide
  · exact hvalue c hc

theorem add_field {name value : List Char} (hname : ':' ∉ name) (fields : Fields) :
    fields.add (field name value) =
      if name = "event".toList then { fields with event := value }
      else if name = "data".toList then { fields with data := fields.data ++ [value] }
      else fields := by
  have hcolon : ∀ c ∈ name, decide (c ≠ ':') = true := by
    intro c hc
    refine decide_eq_true fun heq => ?_
    rw [heq] at hc
    exact hname hc
  have htake : (field name value).takeWhile (· ≠ ':') = name := by
    rw [field, List.takeWhile_append_of_pos hcolon, List.takeWhile_cons_of_neg (by simp),
      List.append_nil]
  have hdrop : (field name value).drop name.length = ':' :: ' ' :: value := List.drop_left
  unfold Fields.add
  dsimp only
  rw [htake, hdrop]
  rfl

/-- A line of its own before the rest of the text. -/
theorem lines_field {name value : List Char} (hname : OneLine name) (hvalue : OneLine value)
    (rest : List Char) :
    lines false [] (field name value ++ '\n' :: rest) = field name value :: lines false [] rest := by
  rw [lines_append (oneLine_field hname hvalue), List.nil_append]

theorem lines_blank (rest : List Char) : lines false [] ('\n' :: rest) = [] :: lines false [] rest := by
  rw [lines, if_pos rfl, if_neg Bool.false_ne_true]

/-- A block that has no data comes to nothing. -/
theorem read_ignored {name value : List Char} (hname : ':' ∉ name ∧ OneLine name) (hvalue : OneLine value)
    (hevent : name ≠ "event".toList) (hdata : name ≠ "data".toList) (rest : List Char) :
    read (field name value ++ '\n' :: '\n' :: rest) = read rest := by
  rw [read, lines_field hname.2 hvalue, lines_blank, messages, if_neg (field_ne_nil _ _),
    add_field hname.1, if_neg hevent, if_neg hdata, messages, if_pos rfl]
  rfl

/-- The block of one message. -/
theorem read_message {event data : List Char} (hne : event ≠ []) (hevent : OneLine event)
    (hdata : OneLine data) (rest : List Char) :
    read (field "event".toList event ++ '\n' :: (field "data".toList data ++ '\n' :: '\n' :: rest)) =
      ⟨String.ofList event, String.ofList data⟩ :: read rest := by
  have hnames : (':' ∉ "event".toList ∧ OneLine "event".toList) ∧
      ':' ∉ "data".toList ∧ OneLine "data".toList := by
    decide
  obtain ⟨⟨hcolon, hline⟩, hcolon', hline'⟩ := hnames
  rw [read, lines_field hline hevent, lines_field hline' hdata, lines_blank, messages,
    if_neg (field_ne_nil _ _), add_field hcolon, if_pos rfl, messages, if_neg (field_ne_nil _ _),
    add_field hcolon', if_neg (by decide), if_pos rfl, messages, if_pos rfl, Fields.message,
    if_neg (by simp)]
  simp [hne, join, read]

end Py.EventSource

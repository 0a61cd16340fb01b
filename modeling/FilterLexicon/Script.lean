import FilterLexicon.Handlers
import FilterLexicon.Lexicon.Edit

/-!
Scripted handlers: resolvers and filters that are given as data.
-/

namespace FilterLexicon

/-- What a scripted resolver replies to a query. -/
inductive Reply where
  /-- No answer. -/
  | silence
  | operators (list : Operators)
  | refuse (message : String)
  /-- Answers with what was asked. -/
  | echo
  /-- Answers for one attribute only. -/
  | forSubject (subject : String) (list : Operators)
  /-- Answers for one type only. -/
  | forType (type : String) (list : Operators)

namespace Reply

def answer (reply : Reply) (query : TypeQuery) : Except String (Option Operators) :=
  match reply with
  | silence => .ok none
  | operators list => .ok (some list)
  | refuse message => .error message
  | echo =>
    .ok (some [query.subject, query.typeName, query.channel, query.column.entity,
      query.column.qualifier, query.column.field])
  | forSubject subject list => .ok (if query.subject = subject then some list else none)
  | forType type list => .ok (if query.typeName = type then some list else none)

end Reply

/-- A resolver that follows a script. -/
def Resolver.scripted (label : String) (channel : Option String) (reply : Reply) : Resolver :=
  { label := some label, channel, answer := reply.answer }

/-- A filter that applies edits. -/
def Filter.scripted (label : String) (edits : List Lexicon.Edit) : Filter :=
  { label, apply := Lexicon.Edit.applyAll edits }

end FilterLexicon

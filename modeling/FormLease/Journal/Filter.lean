import FormLease.Journal.Directive

/-!
# Filters

What of a log is heard. A filter is a list of directives between commas.
Of the directives that concern a line the one that asks for most decides,
so `info,store=debug` hears the store in more detail than the rest. A
directive with a span opens the ears while that span is entered.
-/

namespace FormLease.Journal

/-- What a line or a span is about. -/
structure Subject where
  level : Level
  target : String
  /-- The name of a span; nothing for a line. -/
  span : Option String
  fields : List String

structure Filter where
  /-- Directives that hold anywhere, the most demanding first. -/
  general : List Directive
  /-- Directives about spans, the most demanding first. -/
  spanned : List Directive
  /-- Nothing beyond this is heard. -/
  ceiling : Limit

namespace Filter

/-- The last level that any directive lets be heard, those that are
replaced included. Where the value of a field is asked for it is every
level, since any span may have it. -/
def ceilingOf (directives : List Directive) : Limit :=
  if directives.any fun d => d.fields.any fun f => f.value.isSome then some .trace
  else directives.foldl (fun limit d => Limit.max limit d.limit) none

def ofDirectives (directives : List Directive) : Filter :=
  let isSpanned (d : Directive) : Bool := d.span.isSome || d.fields ≠ []
  let isGeneral (d : Directive) : Bool := d.span.isNone && d.fields.all fun f => f.value.isNone
  let spanned := directives.filter isSpanned
  let general := directives.filter (fun d => !isSpanned d) ++ spanned.filter isGeneral
  let inOrder (directives : List Directive) : List Directive :=
    directives.foldl (fun all d => d.insert all) []
  ⟨inOrder general, inOrder spanned, ceilingOf directives⟩

/-- Reads a filter; nothing if one of its pieces is no directive. Empty
pieces count for nothing. -/
def read? (s : String) : Option Filter :=
  (((Text.pieces ',' s.toList).filter (· ≠ [])).mapM Directive.read?).map ofDirectives

def text (f : Filter) : String := ",".intercalate ((f.general ++ f.spanned).map Directive.text)

/-- The filter of a process: the one asked for, else the one in its
settings, whichever can be read, else everything up to `info`. -/
def choose (asked : Option String) (usual : String) : Filter :=
  ((asked.bind read?) <|> read? usual).getD (ofDirectives [⟨none, none, [], some .info⟩])

/-! ## What is heard -/

def underTarget (d : Directive) (s : Subject) : Bool :=
  d.target.elim true fun target => (Text.afterLead? target.toList s.target.toList).isSome

/-- Whether the first directive that concerns a subject lets it be
heard. -/
def generalAllows (f : Filter) (s : Subject) : Bool :=
  let concerns (d : Directive) : Bool :=
    underTarget d s && (s.span.isSome || d.fields.all fun field => s.fields.contains field.name)
  (f.general.find? concerns).elim false fun d => Limit.allows d.limit s.level

def about (f : Filter) (s : Subject) : List Directive :=
  f.spanned.filter fun d =>
    underTarget d s && (d.span.isNone || d.span = s.span)
      && d.fields.all fun field => s.fields.contains field.name

/-- The levels heard while a span with these field values is entered. -/
def opened (f : Filter) (s : Subject) (values : List (String × String)) : List Limit :=
  ((f.about s).filter fun d => d.fields.all fun field => field.passes (values.lookup field.name)).map
    Directive.limit

/-- Whether a subject is heard, within spans that have opened the ears to
some levels. -/
def hears (f : Filter) (opened : List Limit) (s : Subject) : Bool :=
  Limit.allows f.ceiling s.level
    && ((s.span.isSome && !(f.about s).isEmpty) || opened.any (Limit.allows · s.level)
      || f.generalAllows s)

end Filter

end FormLease.Journal

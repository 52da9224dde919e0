import Courier.Command.Word

/-! # Command processors

A processor is handed one command of one peer and answers whether it accepts it. What it does on the way
is a program: it may install another processor, for good or until a section ends, and route further
commands, and it may panic.
-/

namespace Courier.Command

mutual
/-- What commands are handed to. -/
inductive Processor where
  /-- Accepts the command words. -/
  | words
  | custom (name : String) (body : String → String → Program)

/-- What is done with a router, step by step. -/
inductive Program where
  | answer (accepted : Bool)
  | panic (message : String)
  | install (processor : Processor) (next : Program)
  | route (peer command : String) (next : Bool → Program)
  /-- Begins a section in which a processor is installed. -/
  | enter (processor : Processor) (next : Program)
  /-- Ends the innermost section. -/
  | leave (next : Program)
end

namespace Processor

def name : Processor → String
  | words => "default"
  | custom name _ => name

/-- What a processor does with a command of a peer. -/
def respond (processor : Processor) (peer command : String) : Program :=
  match processor with
  | words => .answer (accepts peer command)
  | custom _ body => body peer command

end Processor

end Courier.Command

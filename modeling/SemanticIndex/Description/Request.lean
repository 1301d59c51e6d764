import SemanticIndex.Action
import SemanticIndex.Description.Picked
import SemanticIndex.Description.Reply

/-!
# Asking for descriptions

A generator is sent fixed instructions and a prompt with the picked models, and its reply is
reduced to what was asked for.
-/

namespace SemanticIndex

/-- The language of descriptions when a request names none. -/
def defaultLanguage : String := "en"

/-- The instructions that a generator is sent with every request. -/
def instructions : String :=
  "You will receive a list of data models as JSON. Each model has a name,\n" ++
  "a list of columns (name, type, properties), and its own properties.\n" ++
  "\n" ++
  "Write a short description of each model and of each of its columns, based on\n" ++
  "the user's explanation of what the data is for. Answer in the requested\n" ++
  "language and reply with JSON only, in exactly this shape:\n" ++
  "\n" ++
  "\x7b\n" ++
  "  \"models\": [\n" ++
  "    \x7b\n" ++
  "      \"name\": \"<model name>\",\n" ++
  "      \"columns\": [\n" ++
  "        \x7b\"name\": \"<column name>\", \"properties\": " ++
  "\x7b\"description\": \"<column description>\"\x7d\x7d\n" ++
  "      ],\n" ++
  "      \"properties\": \x7b\"description\": \"<model description>\"\x7d\n" ++
  "    \x7d\n" ++
  "  ]\n" ++
  "\x7d\n" ++
  "\n" ++
  "Keep every description concise and specific to the user's context."

/-- A generator of replies: it is sent instructions and a prompt. -/
abbrev Generator (state : Type) :=
  String → String → Action state String

/-- What to ask a generator for. -/
structure DescriptionRequest where
  selected : List String
  /-- What the user has to say about the data. -/
  prompt : String
  language : String
deriving DecidableEq, Inhabited

def promptText (picked : List PickedModel) (prompt language : String) : String :=
  "### Input:\nUser's prompt: " ++ prompt ++ "\nPicked models: " ++ pickedText picked ++
    "\nLocalization Language: " ++ language ++
    "\n\nPlease provide a brief description for the model and each column based on the " ++
    "user's prompt."

/-- Ask a generator for descriptions of the selected models of a manifest. -/
def Generator.describe
    {state : Type}
    (generator : Generator state)
    (manifest : Manifest)
    (request : DescriptionRequest) : Action state Descriptions := do
  let picked := manifest.pick request.selected
  let reply ← generator instructions (promptText picked request.prompt request.language)
  return (Reply.read reply).restrict picked

end SemanticIndex

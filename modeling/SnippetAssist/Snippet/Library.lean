import SnippetAssist.Snippet.Basic

/-!
# The built-in snippets

The snippets every repository starts with, for Luau scripts in Roblox, in the order the
repository lists them; ranking keeps this order between equal scores. They are written as
checked snippets, so they need no check when a repository is made.
-/

namespace SnippetAssist

/-- The built-in snippets, in repository order. -/
def builtinSnippets : List Snippet := [
  ⟨"service", "Get a Roblox service",
    "local $1 = game:GetService(\"$2\")",
    .essential, ["service", "variable", "declaration"]⟩,
  ⟨"function", "Local function",
    "local function $1($2)\n\t$0\nend",
    .essential, ["function", "declaration"]⟩,
  ⟨"module", "ModuleScript skeleton",
    "local $1 = \x7b\x7d\n\n$0\n\nreturn $1",
    .essential, ["module", "table"]⟩,
  ⟨"local", "Local variable",
    "local $1 = $0",
    .essential, ["variable", "declaration"]⟩,
  ⟨"if", "If statement",
    "if $1 then\n\t$0\nend",
    .essential, ["conditional"]⟩,
  ⟨"for", "Numeric for loop",
    "for $1 = $2, $3 do\n\t$0\nend",
    .essential, ["loop"]⟩,
  ⟨"connect", "Connect to an event",
    "$1:Connect(function($2)\n\t$0\nend)",
    .essential, ["event", "callback"]⟩,
  ⟨"forpairs", "Iterate a dictionary with pairs",
    "for $1, $2 in pairs($3) do\n\t$0\nend",
    .common, ["loop", "table"]⟩,
  ⟨"foripairs", "Iterate an array with ipairs",
    "for $1, $2 in ipairs($3) do\n\t$0\nend",
    .common, ["loop", "table"]⟩,
  ⟨"while", "While loop",
    "while $1 do\n\t$0\nend",
    .common, ["loop"]⟩,
  ⟨"repeat", "Repeat-until loop",
    "repeat\n\t$0\nuntil $1",
    .common, ["loop"]⟩,
  ⟨"ifelse", "If-else statement",
    "if $1 then\n\t$2\nelse\n\t$0\nend",
    .common, ["conditional"]⟩,
  ⟨"instance", "Create an Instance",
    "local $1 = Instance.new(\"$2\")\n$1.Parent = $0",
    .common, ["instance", "creation", "variable"]⟩,
  ⟨"pcall", "Protected call",
    "local success, result = pcall(function()\n\t$0\nend)",
    .common, ["pcall", "error"]⟩,
  ⟨"touched", "Touched event handler",
    "$1.Touched:Connect(function(hit)\n\t$0\nend)",
    .common, ["event", "callback"]⟩,
  ⟨"callback", "Anonymous function",
    "function($1)\n\t$0\nend",
    .common, ["function", "callback"]⟩,
  ⟨"table", "Table literal",
    "local $1 = \x7b\n\t$0\n\x7d",
    .common, ["table", "variable", "declaration"]⟩,
  ⟨"print", "Print to output",
    "print($0)",
    .common, ["debug"]⟩,
  ⟨"wait", "Yield with task.wait",
    "task.wait($1)",
    .common, ["async"]⟩,
  ⟨"field", "Table field",
    "$1 = $2,",
    .common, ["table"]⟩,
  ⟨"players", "Players service with PlayerAdded",
    "local Players = game:GetService(\"Players\")\n\nPlayers.PlayerAdded:Connect(function(player)\n\t$0\nend)",
    .advanced, ["service", "event"]⟩,
  ⟨"remote", "RemoteEvent from ReplicatedStorage",
    "local $1 = game:GetService(\"ReplicatedStorage\"):WaitForChild(\"$2\")",
    .advanced, ["service", "remote"]⟩,
  ⟨"tween", "Tween an instance",
    "local TweenService = game:GetService(\"TweenService\")\nlocal $1 = TweenService:Create($2, TweenInfo.new($3), \x7b $4 \x7d)\n$1:Play()$0",
    .advanced, ["service", "animation"]⟩,
  ⟨"spawn", "Run a function on a new thread",
    "task.spawn(function()\n\t$0\nend)",
    .advanced, ["function", "callback", "async"]⟩,
  ⟨"class", "Metatable-based class",
    "local $1 = \x7b\x7d\n$1.__index = $1\n\nfunction $1.new($2)\n\tlocal self = setmetatable(\x7b\x7d, $1)\n\t$0\n\treturn self\nend\n\nreturn $1",
    .advanced, ["module", "table", "class"]⟩,
  ⟨"heartbeat", "RunService Heartbeat loop",
    "game:GetService(\"RunService\").Heartbeat:Connect(function(dt)\n\t$0\nend)",
    .advanced, ["service", "event", "loop"]⟩]

end SnippetAssist

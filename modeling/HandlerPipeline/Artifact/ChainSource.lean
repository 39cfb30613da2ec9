/-!
# The source of the chain

Every artifact carries the chain that drives its handlers, so that it runs without this library.
The chain is the same in every artifact; `HandlerPipeline.Chain` says what it does.
-/

namespace HandlerPipeline.ChainSource

/-- The modules that the chain needs, and its logger. -/
def imports : List String := [
  "import asyncio",
  "import inspect",
  "import logging",
  "import types",
  "from dataclasses import dataclass",
  "from typing import Any, Callable, Optional, Sequence, Union",
  "",
  "",
  "logger = logging.getLogger(__name__)",
  "",
  ""]

/-- The states of a chain, and its steps. -/
def states : List String := [
  "@dataclass(frozen=True)",
  "class Succeeded:",
  "    value: Any = None",
  "",
  "",
  "@dataclass(frozen=True)",
  "class Failed:",
  "    error: Exception",
  "",
  "",
  "@dataclass(frozen=True)",
  "class Stopped:",
  "    settled: Union[Succeeded, Failed]",
  "",
  "",
  "ChainState = Union[Succeeded, Failed, Stopped]",
  "",
  "",
  "@dataclass(frozen=True)",
  "class ChainStep:",
  "    \"\"\"One pipeline step: a success-path and/or a failure-path handler.\"\"\"",
  "    then: Optional[Callable[..., Any]] = None",
  "    catch: Optional[Callable[..., Any]] = None",
  "    label: str = \"\"",
  "",
  ""]

/-- The control that handlers reach through their context. -/
def control : List String := [
  "class ExecutionControl:",
  "    \"\"\"",
  "    Per-invocation control surface, exposed on the host context as",
  "    ``context.end()`` and ``context.prev``.",
  "    \"\"\"",
  "",
  "    def __init__(self, context: Any):",
  "        self.context = context if context is not None else types.SimpleNamespace()",
  "        self.stopped = False",
  "        self._expose(\"end\", self.stop)",
  "        self._expose(\"prev\", None)",
  "",
  "    def _expose(self, name: str, value: Any) -> None:",
  "        if isinstance(self.context, dict):",
  "            self.context[name] = value",
  "        else:",
  "            setattr(self.context, name, value)",
  "",
  "    def stop(self) -> None:",
  "        self.stopped = True",
  "",
  "    def record(self, prev: Any) -> None:",
  "        self._expose(\"prev\", prev)",
  "",
  ""]

/-- The phases of a step. -/
def phases : List String := [
  "def checkpoint(state: ChainState, control: ExecutionControl) -> ChainState:",
  "    \"\"\"Enter the Stopped state once a stop was requested.\"\"\"",
  "    if control.stopped and not isinstance(state, Stopped):",
  "        return Stopped(state)",
  "    return state",
  "",
  "",
  "async def settle(handler: Callable[..., Any], event: Any, control: ExecutionControl) " ++
    "-> ChainState:",
  "    \"\"\"Invoke a handler and turn its outcome into the next chain state.\"\"\"",
  "    try:",
  "        result = handler(event, control.context)",
  "        if inspect.isawaitable(result):",
  "            result = await result",
  "    except Exception as error:",
  "        return Failed(error)",
  "    return Succeeded(result)",
  "",
  "",
  "async def advance(state: ChainState, step: ChainStep, event: Any,",
  "                  control: ExecutionControl) -> ChainState:",
  "    \"\"\"Run the then-phase and the catch-phase of one step.\"\"\"",
  "    state = checkpoint(state, control)",
  "    if isinstance(state, Stopped):",
  "        logger.debug(\"Skipped step %s: pipeline stopped\", step.label)",
  "        return state",
  "",
  "    if isinstance(state, Succeeded) and step.then is not None:",
  "        control.record(state.value)",
  "        state = await settle(step.then, event, control)",
  "",
  "    state = checkpoint(state, control)",
  "    if isinstance(state, Failed) and step.catch is not None:",
  "        control.record(state.error)",
  "        state = await settle(step.catch, event, control)",
  "    return state",
  "",
  ""]

/-- The ends of a chain: its result and its entry points. -/
def entries : List String := [
  "def unwrap(state: ChainState) -> Any:",
  "    \"\"\"Final value of a chain, raising a failure nobody caught.\"\"\"",
  "    if isinstance(state, Stopped):",
  "        state = state.settled",
  "    if isinstance(state, Failed):",
  "        raise state.error",
  "    return state.value",
  "",
  "",
  "async def run_chain(steps: Sequence[ChainStep], event: Any, context: Any) -> Any:",
  "    \"\"\"Drive every step in order, awaiting each handler before the next.\"\"\"",
  "    control = ExecutionControl(context)",
  "    state: ChainState = Succeeded()",
  "    for step in steps:",
  "        state = await advance(state, step, event, control)",
  "    return unwrap(state)",
  "",
  "",
  "def run_chain_sync(steps: Sequence[ChainStep], event: Any, context: Any) -> Any:",
  "    \"\"\"Blocking entry point for hosts that call handlers synchronously.\"\"\"",
  "    return asyncio.run(run_chain(steps, event, context))"]

/-- The lines of the chain. -/
def lines : List String := imports ++ states ++ control ++ phases ++ entries

/-- The text of the chain. -/
def text : String := "\n".intercalate lines

/-- The names that the chain defines or imports at its top level. -/
def definedNames : List String :=
  ["asyncio", "inspect", "logging", "types", "dataclass", "Any", "Callable", "Optional", "Sequence",
    "Union", "logger", "Succeeded", "Failed", "Stopped", "ChainState", "ChainStep",
    "ExecutionControl", "checkpoint", "settle", "advance", "unwrap", "run_chain",
    "run_chain_sync"]

end HandlerPipeline.ChainSource

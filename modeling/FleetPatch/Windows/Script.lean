import FleetPatch.Fault
import FleetPatch.KbId

/-!
# Windows scripts

Every script writes one line of compressed JSON. What a script may do on the
host is fixed text, except for the filter of the action script: the digits of
the requested identifiers, each once, in the order of their first mention. An
empty filter stands for every update that is found.
-/

namespace FleetPatch.Windows

set_option autoImplicit false

/-- Lines as one text; the last line has no end of its own. -/
def scriptOf (lines : List String) : String := "\n".intercalate lines

def installedUpdatesScript : String := scriptOf [
  "",
  "$ErrorActionPreference = 'Stop'",
  "try \x7b",
  "    $seen = @\x7b\x7d",
  "    $updates = New-Object System.Collections.ArrayList",
  "    foreach ($hf in (Get-HotFix | Select-Object HotFixID, Description, InstalledOn, InstalledBy)) \x7b",
  "        if ([string]$hf.HotFixID -notmatch '(\\d+)') \x7b continue \x7d",
  "        $key = 'KB' + $Matches[1]",
  "        if ($seen.ContainsKey($key)) \x7b continue \x7d",
  "        $seen[$key] = $true",
  "        $installedOn = $null",
  "        try \x7b if ($hf.InstalledOn) \x7b $installedOn = ([datetime]$hf.InstalledOn).ToString('yyyy-MM-dd') \x7d \x7d catch \x7b \x7d",
  "        [void]$updates.Add([PSCustomObject]@\x7b",
  "            HotFixID    = $key",
  "            Description = [string]$hf.Description",
  "            InstalledOn = $installedOn",
  "            InstalledBy = [string]$hf.InstalledBy",
  "            Source      = 'hotfix'",
  "        \x7d)",
  "    \x7d",
  "    $Session = New-Object -ComObject Microsoft.Update.Session",
  "    $Searcher = $Session.CreateUpdateSearcher()",
  "    $total = $Searcher.GetTotalHistoryCount()",
  "    if ($total -gt 0) \x7b",
  "        foreach ($entry in $Searcher.QueryHistory(0, $total)) \x7b",
  "            if ($entry.Operation -ne 1) \x7b continue \x7d",
  "            if ($entry.ResultCode -ne 2 -and $entry.ResultCode -ne 3) \x7b continue \x7d",
  "            if ([string]$entry.Title -notmatch 'KB(\\d+)') \x7b continue \x7d",
  "            $key = 'KB' + $Matches[1]",
  "            if ($seen.ContainsKey($key)) \x7b continue \x7d",
  "            $seen[$key] = $true",
  "            [void]$updates.Add([PSCustomObject]@\x7b",
  "                HotFixID    = $key",
  "                Description = [string]$entry.Title",
  "                InstalledOn = $entry.Date.ToString('yyyy-MM-dd')",
  "                InstalledBy = $null",
  "                Source      = 'history'",
  "            \x7d)",
  "        \x7d",
  "    \x7d",
  "    if ($updates.Count -eq 0) \x7b Write-Output '[]' \x7d",
  "    else \x7b Write-Output (ConvertTo-Json -InputObject @($updates) -Compress) \x7d",
  "\x7d catch \x7b",
  "    Write-Output (ConvertTo-Json -InputObject @\x7b Error = $_.Exception.Message \x7d -Compress)",
  "\x7d",
  ""]

def searchScript : String := scriptOf [
  "",
  "$ErrorActionPreference = 'Stop'",
  "try \x7b",
  "    $Session = New-Object -ComObject Microsoft.Update.Session",
  "    $Searcher = $Session.CreateUpdateSearcher()",
  "    $SearchResult = $Searcher.Search(\"IsInstalled=0\")",
  "    $updates = @()",
  "    foreach ($Update in $SearchResult.Updates) \x7b",
  "        if ($Update.EulaAccepted -eq $false) \x7b $Update.AcceptEula() \x7d",
  "        $kbs = @($Update.KBArticleIDs) -join ','",
  "        $cats = @()",
  "        foreach ($cat in $Update.Categories) \x7b $cats += $cat.Name \x7d",
  "        $sev = if ($Update.MsrcSeverity) \x7b $Update.MsrcSeverity \x7d else \x7b 'Unspecified' \x7d",
  "        $updates += [PSCustomObject]@\x7b",
  "            KBArticleIDs = $kbs",
  "            Title        = $Update.Title",
  "            SizeBytes    = $Update.MaxDownloadSize",
  "            Severity     = $sev",
  "            IsDownloaded = [bool]$Update.IsDownloaded",
  "            Categories   = ($cats -join ';')",
  "        \x7d",
  "    \x7d",
  "    if ($updates.Count -eq 0) \x7b Write-Output '[]' \x7d",
  "    else \x7b Write-Output (ConvertTo-Json -InputObject @($updates) -Compress) \x7d",
  "\x7d catch \x7b",
  "    Write-Output (ConvertTo-Json -InputObject @\x7b Error = $_.Exception.Message \x7d -Compress)",
  "\x7d",
  ""]

def rebootCheckScript : String := scriptOf [
  "",
  "$cbsKey = 'HKLM:\\SOFTWARE\\Microsoft\\Windows\\CurrentVersion\\Component Based Servicing\\RebootPending'",
  "$wuKey = 'HKLM:\\SOFTWARE\\Microsoft\\Windows\\CurrentVersion\\WindowsUpdate\\Auto Update\\RebootRequired'",
  "$pfro = Get-ItemProperty 'HKLM:\\SYSTEM\\CurrentControlSet\\Control\\Session Manager' -Name PendingFileRenameOperations -ErrorAction SilentlyContinue",
  "$signals = @\x7b",
  "    ComponentBasedServicing = [bool](Test-Path $cbsKey)",
  "    WindowsUpdate           = [bool](Test-Path $wuKey)",
  "    PendingFileRename       = [bool]($pfro -and $pfro.PendingFileRenameOperations)",
  "\x7d",
  "Write-Output (ConvertTo-Json -InputObject $signals -Compress)",
  ""]

def restartCommand : String := "Restart-Computer -Force"

inductive Action where
  | download
  | install
  deriving Repr, DecidableEq

namespace Action

def name : Action → String
  | .download => "download"
  | .install => "install"

def ofName? (name : String) : Option Action :=
  if name = "download" then some .download
  else if name = "install" then some .install
  else none

end Action

def addDigits (digits : List String) (next : String) : List String :=
  if digits.contains next then digits else digits ++ [next]

/-- Adds the digits of an entry. An entry that is no identifier is refused: leaving it out could
turn a narrow filter into one that selects everything. -/
def filterStep (digits : List String) (entry : Json) : Except Fault (List String) :=
  match KbId.digits? entry with
  | some next => .ok (addDigits digits next)
  | none => .error (.invalidValue (.notKbIdentifier entry.quotedText))

def filterDigits (entries : List Json) : Except Fault (List String) :=
  entries.foldlM filterStep []

def filterAssignment (digits : List String) : String :=
  "$KBFilter = @(" ++ ", ".intercalate (digits.map fun item => "'" ++ item ++ "'") ++ ")"

def filterLine (entries : List Json) : Except Fault String :=
  (filterDigits entries).map filterAssignment

def actionHead : String := scriptOf [
  "",
  "$ErrorActionPreference = 'Stop'",
  "try \x7b",
  "    $Session = New-Object -ComObject Microsoft.Update.Session",
  "    $Searcher = $Session.CreateUpdateSearcher()",
  "    $SearchResult = $Searcher.Search(\"IsInstalled=0\")",
  "    "]

/-- The action script from the filter line to where installing is done. -/
def actionMiddle : String := scriptOf [
  "",
  "    $UpdateColl = New-Object -ComObject Microsoft.Update.UpdateColl",
  "    foreach ($Update in $SearchResult.Updates) \x7b",
  "        if ($Update.EulaAccepted -eq $false) \x7b $Update.AcceptEula() \x7d",
  "        $kbs = @($Update.KBArticleIDs)",
  "        $match = $KBFilter.Count -eq 0",
  "        foreach ($kb in $kbs) \x7b",
  "            if ($KBFilter -contains $kb) \x7b $match = $true; break \x7d",
  "        \x7d",
  "        if ($match) \x7b $UpdateColl.Add($Update) | Out-Null \x7d",
  "    \x7d",
  "    if ($UpdateColl.Count -eq 0) \x7b",
  "        Write-Output '\x7b\"ResultCode\":2,\"RebootRequired\":false,\"UpdateCount\":0,\"Updates\":[]\x7d'",
  "    \x7d else \x7b",
  "        $Downloader = $Session.CreateUpdateDownloader()",
  "        $Downloader.Updates = $UpdateColl",
  "        $DlResult = $Downloader.Download()",
  "        "]

def installSteps : String := scriptOf [
  "$Installer = $Session.CreateUpdateInstaller()",
  "        $Installer.Updates = $UpdateColl",
  "        $InstResult = $Installer.Install()"]

def actionChoice : String := scriptOf [
  "",
  "        $FinalResult = "]

def actionTail : String := scriptOf [
  "",
  "        $results = @()",
  "        for ($i = 0; $i -lt $UpdateColl.Count; $i++) \x7b",
  "            $u = $UpdateColl.Item($i)",
  "            $r = $FinalResult.GetUpdateResult($i)",
  "            $results += [PSCustomObject]@\x7b",
  "                KBArticleIDs = (@($u.KBArticleIDs) -join ',')",
  "                Title        = $u.Title",
  "                ResultCode   = [int]$r.ResultCode",
  "            \x7d",
  "        \x7d",
  "        $out = @\x7b",
  "            ResultCode     = [int]$FinalResult.ResultCode",
  "            RebootRequired = [bool]$FinalResult.RebootRequired",
  "            UpdateCount    = $UpdateColl.Count",
  "            Updates        = @($results)",
  "        \x7d",
  "        Write-Output (ConvertTo-Json -InputObject $out -Compress -Depth 4)",
  "    \x7d",
  "\x7d catch \x7b",
  "    Write-Output (ConvertTo-Json -InputObject @\x7b Error = $_.Exception.Message \x7d -Compress)",
  "\x7d",
  ""]

def Action.scriptWith (action : Action) (filter : String) : String :=
  match action with
  | .download => actionHead ++ filter ++ actionMiddle ++ actionChoice ++ "$DlResult" ++ actionTail
  | .install =>
      actionHead ++ filter ++ actionMiddle ++ installSteps ++ actionChoice ++ "$InstResult" ++
        actionTail

def Action.script (action : Action) (entries : List Json) : Except Fault String :=
  (filterLine entries).map action.scriptWith

end FleetPatch.Windows

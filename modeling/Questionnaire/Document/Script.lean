/-
  The script of a page: what a browser runs to ask the
  questions, review the answers and send them.

  Key definitions include:
    * `scriptLines`
    * `scriptText`

  The script is data here, and what a browser does with it is
  left out.  It reads its plan from the element before it, and
  every page has the same one.
-/

------------------------------------------------------------
-- Lines of the Script
------------------------------------------------------------

namespace Questionnaire.Document

/- Patterns, the plan and the state. -/
def scriptSettings : List String := [
  "/* funnel runtime 1.2.0 - reads #funnel-config and drives the step funnel. */",
  "(function () \x7b",
  "  'use strict';",
  "",
  "  var RUNTIME_VERSION = '1.2.0';",
  "  var EMAIL = /^[^\\s@]+@[^\\s@]+\\.[^\\s@]+$/;",
  "  var ABSOLUTE_URL = /^https?:\\/\\/[^\\s\\/?#]+/i;",
  "  var NUMBER_TOKEN = /[0-9]+(?:[.,][0-9]+)*/;",
  "  var PHONE_MAX_DIGITS = 11;",
  "  var PHONE_MIN_DIGITS = 10;",
  "",
  "  var configEl = document.getElementById('funnel-config');",
  "  if (!configEl) \x7b",
  "    console.error('funnel: configuration block missing');",
  "    return;",
  "  \x7d",
  "  var config;",
  "  try \x7b",
  "    config = JSON.parse(configEl.textContent);",
  "  \x7d catch (error) \x7b",
  "    console.error('funnel: configuration is not valid JSON', error);",
  "    return;",
  "  \x7d",
  "  if (config.version !== RUNTIME_VERSION) \x7b",
  "    console.warn('funnel: configuration version ' + config.version + ' differs from runtime ' + RUNTIME_VERSION);",
  "  \x7d",
  "",
  "  var questions = config.questions || [];",
  "  var criteria = config.criteria || \x7b rules: [], logic: 'AND' \x7d;",
  "  var destinations = config.destinations || \x7b\x7d;",
  "  var timing = config.timing || \x7b\x7d;",
  "  var totalSteps = config.totalSteps || questions.length + 2;",
  "  var reviewStep = questions.length + 1;",
  "  var commitStep = questions.length + 2;",
  "",
  "  var state = \x7b",
  "    currentStep: 1,",
  "    answers: Object.create(null),",
  "    qualified: true,",
  "    editing: false,",
  "    finished: false,",
  "    locked: Object.create(null)",
  "  \x7d;",
  ""]

/- Finding and showing the steps. -/
def scriptScreens : List String := [
  "  function byId(id) \x7b",
  "    return document.getElementById(id);",
  "  \x7d",
  "",
  "  function stepElement(n) \x7b",
  "    var steps = document.querySelectorAll('.step');",
  "    for (var i = 0; i < steps.length; i++) \x7b",
  "      if (steps[i].getAttribute('data-step') === String(n)) return steps[i];",
  "    \x7d",
  "    return null;",
  "  \x7d",
  "",
  "  function questionAt(n) \x7b",
  "    return n >= 1 && n <= questions.length ? questions[n - 1] : null;",
  "  \x7d",
  "",
  "  function isChoice(kind) \x7b",
  "    return kind === 'select' || kind === 'radio';",
  "  \x7d",
  "",
  "  function showStep(n) \x7b",
  "    if (n < 1 || n > totalSteps) return;",
  "    var target = stepElement(n);",
  "    if (!target) return;",
  "    document.querySelectorAll('.step').forEach(function (step) \x7b",
  "      step.classList.remove('active');",
  "    \x7d);",
  "    target.classList.add('active');",
  "    state.currentStep = n;",
  "    delete state.locked[n];",
  "    var group = target.querySelector('.radio-group');",
  "    if (group) group.classList.remove('locked');",
  "",
  "    var pct = Math.round(((n - 1) / totalSteps) * 100);",
  "    var fill = byId('progressFill');",
  "    if (fill) fill.style.width = pct + '%';",
  "    var text = byId('progressText');",
  "    if (text) text.textContent = 'Etapa ' + Math.min(n, totalSteps) + ' de ' + totalSteps;",
  "    window.scrollTo(0, 0);",
  "  \x7d",
  "",
  "  // Field validation",
  ""]

/- Judging and storing what is typed. -/
def scriptFields : List String := [
  "  function validatorFor(kind) \x7b",
  "    switch (kind) \x7b",
  "      case 'text':",
  "      case 'textarea':",
  "        return 'text';",
  "      case 'email':",
  "        return 'email';",
  "      case 'phone':",
  "        return 'phone';",
  "      default:",
  "        return null;",
  "    \x7d",
  "  \x7d",
  "",
  "  function phoneDigits(raw) \x7b",
  "    return String(raw).replace(/[^0-9]/g, '').substring(0, PHONE_MAX_DIGITS);",
  "  \x7d",
  "",
  "  function formatPhone(raw) \x7b",
  "    var digits = phoneDigits(raw);",
  "    if (!digits) return '';",
  "    var out = '(' + digits.substring(0, 2);",
  "    if (digits.length > 2) out += ') ' + digits.substring(2, 7);",
  "    if (digits.length > 7) out += '-' + digits.substring(7);",
  "    return out;",
  "  \x7d",
  "",
  "  function checkField(kind, raw, required) \x7b",
  "    switch (validatorFor(kind)) \x7b",
  "      case 'text':",
  "        return \x7b value: raw, valid: !required || raw.trim().length > 0 \x7d;",
  "      case 'email':",
  "        return \x7b value: raw, valid: raw.trim().length === 0 ? !required : EMAIL.test(raw) \x7d;",
  "      case 'phone':",
  "        var digits = phoneDigits(raw);",
  "        return \x7b",
  "          value: formatPhone(raw),",
  "          valid: digits.length === 0 ? !required : digits.length >= PHONE_MIN_DIGITS",
  "        \x7d;",
  "      default:",
  "        return null;",
  "    \x7d",
  "  \x7d",
  "",
  "  function onInput(field) \x7b",
  "    var question = questionAt(state.currentStep);",
  "    if (state.finished || !question || field.getAttribute('data-field') !== question.id) return;",
  "    var result = checkField(question.kind, field.value, question.required);",
  "    if (!result) return;",
  "    if (field.value !== result.value) field.value = result.value;",
  "    state.answers[question.id] = result.value;",
  "",
  "    var step = field.closest('.step');",
  "    if (!step) return;",
  "    var button = step.querySelector('[data-action=\"continue\"]');",
  "    if (button) button.disabled = !result.valid;",
  "    var message = step.querySelector('.error-msg');",
  "    if (message) message.classList.toggle('show', !result.valid);",
  "    field.classList.toggle('error', !result.valid);",
  "  \x7d",
  "",
  "  // Qualification",
  ""]

/- Whether the answers meet the criteria. -/
def scriptVerdict : List String := [
  "  function leadingNumber(value) \x7b",
  "    var match = NUMBER_TOKEN.exec(String(value));",
  "    return match ? parseFloat(match[0].replace(/[.,]/g, '')) : NaN;",
  "  \x7d",
  "",
  "  function evaluateRule(rule) \x7b",
  "    var answer = state.answers[rule.questionId];",
  "    if (!answer) return false;",
  "    switch (rule.operator) \x7b",
  "      case 'equals':",
  "        return answer === rule.value;",
  "      case 'notEquals':",
  "        return answer !== rule.value;",
  "      case 'contains':",
  "        return answer.indexOf(rule.value) !== -1;",
  "      case 'greaterThan':",
  "        return leadingNumber(answer) > leadingNumber(rule.value);",
  "      case 'lessThan':",
  "        return leadingNumber(answer) < leadingNumber(rule.value);",
  "      default:",
  "        return false;",
  "    \x7d",
  "  \x7d",
  "",
  "  function checkQualification() \x7b",
  "    var rules = criteria.rules || [];",
  "    if (rules.length === 0) \x7b",
  "      state.qualified = true;",
  "      return state.qualified;",
  "    \x7d",
  "    var outcomes = rules.map(evaluateRule);",
  "    state.qualified = criteria.logic === 'OR'",
  "      ? outcomes.some(function (passed) \x7b return passed; \x7d)",
  "      : outcomes.every(function (passed) \x7b return passed; \x7d);",
  "    return state.qualified;",
  "  \x7d",
  "",
  "  // Navigation",
  ""]

/- Drawing the review of the answers. -/
def scriptReview : List String := [
  "  function element(tag, className, text) \x7b",
  "    var node = document.createElement(tag);",
  "    node.className = className;",
  "    if (text !== undefined) node.textContent = text;",
  "    return node;",
  "  \x7d",
  "",
  "  function renderReview() \x7b",
  "    var list = byId('reviewCards');",
  "    if (!list) return;",
  "    while (list.firstChild) list.removeChild(list.firstChild);",
  "    questions.forEach(function (question, index) \x7b",
  "      var value = state.answers[question.id];",
  "      if (!value) return;",
  "      var card = element('div', 'review-card');",
  "      var info = element('div', 'review-card-info');",
  "      info.appendChild(element('div', 'review-card-label', question.label));",
  "      info.appendChild(element('div', 'review-card-value', value));",
  "      var edit = element('button', 'review-edit', 'Editar');",
  "      edit.type = 'button';",
  "      edit.setAttribute('data-action', 'edit');",
  "      edit.setAttribute('data-target-step', String(index + 1));",
  "      card.appendChild(info);",
  "      card.appendChild(edit);",
  "      list.appendChild(card);",
  "    \x7d);",
  "  \x7d",
  "",
  "  function showReview() \x7b",
  "    renderReview();",
  "    checkQualification();",
  "    showStep(reviewStep);",
  "  \x7d",
  ""]

/- Going from step to step. -/
def scriptMoves : List String := [
  "  function leaveQuestion() \x7b",
  "    if (state.editing || state.currentStep >= questions.length) \x7b",
  "      state.editing = false;",
  "      showReview();",
  "    \x7d else \x7b",
  "      showStep(state.currentStep + 1);",
  "    \x7d",
  "  \x7d",
  "",
  "  function advance() \x7b",
  "    if (state.finished) return;",
  "    if (state.currentStep === reviewStep) \x7b",
  "      confirmReview();",
  "      return;",
  "    \x7d",
  "    var question = questionAt(state.currentStep);",
  "    if (!question) return;",
  "    var result = checkField(question.kind, state.answers[question.id] || '', question.required);",
  "    if (!result || !result.valid) return;",
  "    leaveQuestion();",
  "  \x7d",
  "",
  "  function selectOption(card) \x7b",
  "    if (state.finished) return;",
  "    var step = state.currentStep;",
  "    var question = questionAt(step);",
  "    if (!question || !isChoice(question.kind)) return;",
  "    var stepEl = card.closest('.step');",
  "    if (!stepEl || stepEl.getAttribute('data-step') !== String(step)) return;",
  "    if (state.locked[step]) return;",
  "    var value = card.getAttribute('data-value');",
  "    if ((question.options || []).indexOf(value) === -1) return;",
  "    state.locked[step] = true;",
  "",
  "    var group = card.closest('.radio-group');",
  "    if (group) \x7b",
  "      group.classList.add('locked');",
  "      group.querySelectorAll('.radio-card').forEach(function (other) \x7b",
  "        other.classList.remove('selected');",
  "      \x7d);",
  "    \x7d",
  "    card.classList.add('selected');",
  "    var radio = card.querySelector('input');",
  "    if (radio) radio.checked = true;",
  "    state.answers[question.id] = value;",
  "",
  "    setTimeout(function () \x7b",
  "      if (state.currentStep === step && !state.finished) leaveQuestion();",
  "    \x7d, timing.choiceDelayMs || 0);",
  "  \x7d",
  "",
  "  function back() \x7b",
  "    if (state.finished || state.currentStep <= 1) return;",
  "    showStep(state.currentStep - 1);",
  "  \x7d",
  "",
  "  function editStep(n) \x7b",
  "    if (state.finished || state.currentStep !== reviewStep || !questionAt(n)) return;",
  "    state.editing = true;",
  "    showStep(n);",
  "  \x7d",
  "",
  "  function confirmReview() \x7b",
  "    if (state.finished || state.currentStep !== reviewStep) return;",
  "    if (state.qualified) \x7b",
  "      showStep(commitStep);",
  "    \x7d else \x7b",
  "      submit(false);",
  "    \x7d",
  "  \x7d",
  "",
  "  function commit(confirmed) \x7b",
  "    if (state.finished || state.currentStep !== commitStep) return;",
  "    submit(confirmed);",
  "  \x7d",
  "",
  "  // Submission",
  ""]

/- Sending the answers. -/
def scriptSending : List String := [
  "  function wellFormed(url) \x7b",
  "    url = typeof url === 'string' ? url.trim() : '';",
  "    return ABSOLUTE_URL.test(url) ? url : null;",
  "  \x7d",
  "",
  "  function submit(qualified) \x7b",
  "    if (state.finished) return;",
  "    state.finished = true;",
  "    var destination = destinations[qualified ? 'qualified' : 'disqualified'] || \x7b\x7d;",
  "    var payload = \x7b\x7d;",
  "    Object.keys(state.answers).forEach(function (id) \x7b",
  "      if (state.answers[id]) payload[id] = state.answers[id];",
  "    \x7d);",
  "    payload.status = qualified ? 'qualificado' : 'desqualificado';",
  "    payload.submittedAt = new Date().toISOString();",
  "",
  "    var overlay = byId('successOverlay');",
  "    if (overlay) overlay.classList.add('show');",
  "",
  "    var webhook = wellFormed(destination.webhook);",
  "    if (webhook && window.fetch) \x7b",
  "      try \x7b",
  "        fetch(webhook, \x7b",
  "          method: 'POST',",
  "          headers: \x7b 'Content-Type': 'application/json' \x7d,",
  "          body: JSON.stringify(payload)",
  "        \x7d).catch(function (error) \x7b",
  "          console.error('funnel: webhook delivery failed', error);",
  "        \x7d);",
  "      \x7d catch (error) \x7b",
  "        console.error('funnel: webhook delivery failed', error);",
  "      \x7d",
  "    \x7d",
  "",
  "    var redirect = wellFormed(destination.redirect);",
  "    setTimeout(function () \x7b",
  "      if (redirect) window.location.href = redirect;",
  "    \x7d, timing.redirectDelayMs || 0);",
  "  \x7d",
  "",
  "  // Wiring",
  ""]

/- Listening to clicks and keys. -/
def scriptListeners : List String := [
  "  document.addEventListener('click', function (event) \x7b",
  "    var target = event.target && event.target.closest ? event.target.closest('[data-action]') : null;",
  "    if (!target) return;",
  "    switch (target.getAttribute('data-action')) \x7b",
  "      case 'continue':",
  "        advance();",
  "        break;",
  "      case 'back':",
  "        back();",
  "        break;",
  "      case 'select':",
  "        selectOption(target);",
  "        break;",
  "      case 'edit':",
  "        editStep(parseInt(target.getAttribute('data-target-step'), 10));",
  "        break;",
  "      case 'confirm-review':",
  "        confirmReview();",
  "        break;",
  "      case 'commit':",
  "        commit(target.getAttribute('data-answer') === 'yes');",
  "        break;",
  "    \x7d",
  "  \x7d);",
  "",
  "  document.addEventListener('input', function (event) \x7b",
  "    var field = event.target;",
  "    if (field && field.hasAttribute && field.hasAttribute('data-field')) onInput(field);",
  "  \x7d);",
  "",
  "  document.addEventListener('keydown', function (event) \x7b",
  "    var field = event.target;",
  "    if (event.key !== 'Enter' || !field || field.tagName !== 'INPUT' || !field.hasAttribute('data-field')) return;",
  "    event.preventDefault();",
  "    advance();",
  "  \x7d);",
  "",
  "  if (questions.length === 0) \x7b",
  "    showReview();",
  "  \x7d else \x7b",
  "    showStep(1);",
  "  \x7d",
  "\x7d)();"]

end Questionnaire.Document

------------------------------------------------------------
-- The Script
------------------------------------------------------------

namespace Questionnaire.Document

/- All lines of the script. -/
def scriptLines : List String :=
  scriptSettings
    ++ scriptScreens
    ++ scriptFields
    ++ scriptVerdict
    ++ scriptReview
    ++ scriptMoves
    ++ scriptSending
    ++ scriptListeners

/- The script, each of its lines ended. -/
def scriptText : String :=
  String.join (scriptLines.map (fun line => line ++ "\n"))

end Questionnaire.Document
